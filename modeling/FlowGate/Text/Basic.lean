/-!
# Cutting and trimming texts

`splitOn` cuts a text at every occurrence of a character, `splitOnce?` at the first one, and
`splitOnceAt?` at the first occurrence of a text. `dropPrefix?` takes off a given beginning.
`lowercase` and `uppercase` change the letters of ASCII only, which is what header names and request
methods need. `trim` removes white space in the Unicode sense (the characters with the property
`White_Space`) at both ends, and `trimSlashes` removes path separators.
-/

namespace FlowGate.Text

/-! ## Cutting -/

/-- Cuts a text at every occurrence of a character. -/
def splitOn (separator : Char) (text : String) : List String :=
  (text.toList.splitOn separator).map String.ofList

/-- Cuts a list before and after the first occurrence of a given run of characters. -/
def splitListOnce? (separator : List Char) : List Char → Option (List Char × List Char)
  | [] => if separator.isEmpty then some ([], []) else none
  | c :: rest =>
      if separator.isPrefixOf (c :: rest) then some ([], (c :: rest).drop separator.length)
      else (splitListOnce? separator rest).map fun (before, after) ↦ (c :: before, after)

/-- The parts of a text before and after the first occurrence of a separator. -/
def splitOnceAt? (separator text : String) : Option (String × String) :=
  (splitListOnce? separator.toList text.toList).map fun (before, after) ↦
    (String.ofList before, String.ofList after)

/-- The parts of a text before and after the first occurrence of a character. -/
def splitOnce? (separator : Char) (text : String) : Option (String × String) :=
  (splitListOnce? [separator] text.toList).map fun (before, after) ↦
    (String.ofList before, String.ofList after)

/-- The rest of a text that begins with a given one. -/
def dropPrefix? (start text : String) : Option String :=
  if start.toList.isPrefixOf text.toList then
    some (String.ofList (text.toList.drop start.toList.length))
  else none

/-! ## Letters -/

/-- Replaces the capital letters of ASCII by small ones. -/
def lowercase (text : String) : String := String.ofList (text.toList.map Char.toLower)

/-- Replaces the small letters of ASCII by capital ones. -/
def uppercase (text : String) : String := String.ofList (text.toList.map Char.toUpper)

/-! ## Trimming -/

/-- `isBlank c` says `c` has the Unicode property `White_Space`. -/
def isBlank (c : Char) : Bool :=
  ('\t' ≤ c && c ≤ '\r') || c = ' ' || c = '\x85' || c = '\xa0' || c = '\u1680' ||
    ('\u2000' ≤ c && c ≤ '\u200a') || c = '\u2028' || c = '\u2029' || c = '\u202f' ||
    c = '\u205f' || c = '\u3000'

/-- Drops the characters at the end of a text that satisfy a condition. -/
def trimEndBy (unwanted : Char → Bool) (text : String) : String :=
  String.ofList (text.toList.reverse.dropWhile unwanted).reverse

/-- Drops the characters at both ends of a text that satisfy a condition. -/
def trimBy (unwanted : Char → Bool) (text : String) : String :=
  String.ofList ((text.toList.dropWhile unwanted).reverse.dropWhile unwanted).reverse

/-- Drops white space at both ends. -/
def trim (text : String) : String := trimBy isBlank text

/-- `isSlash c` says `c` separates the segments of a path. -/
def isSlash (c : Char) : Bool := c = '/'

/-- Drops path separators at both ends. -/
def trimSlashes (text : String) : String := trimBy isSlash text

end FlowGate.Text
