import FlowGate.Proofs.Http.Headers
import FlowGate.Proofs.Json.Record
import FlowGate.Proofs.Resume.EffectiveHost

/-!
# Header lines with one name

The call that a request makes has one value for every header. `header?_webhookCall` says this is the
value of the last readable line with the name. `Request.Joins` is the request in which one line
lists the values of all lines with a name. `last_forwarded_line_decides` compares the hosts that the
two are addressed to: with several lines of forwarded hosts the last line decides, and with the one
line that joins them the first one, so the hosts are the same only if these two lines agree.
-/

namespace FlowGate

/-- The value of a key is the last one that the list has for it. -/
theorem Table.get?_ofList_eq_getLast? {α : Type} (entries : List (String × α)) (key : String) :
    (Table.ofList entries).get? key =
      ((entries.filter fun entry ↦ entry.1 = key).map (·.2)).getLast? := by
  have hlookup (entries : List (String × α)) :
      entries.lookup key = ((entries.filter fun entry ↦ entry.1 = key).map (·.2)).head? := by
    induction entries with
    | nil => rfl
    | cons entry rest ih =>
        rw [Table.lookup_cons_entry, List.filter_cons]
        by_cases hkey : entry.1 = key
        · rw [if_pos hkey.symm, if_pos (decide_eq_true hkey)]
          rfl
        · rw [if_neg (Ne.symm hkey), if_neg (by simpa using hkey), ih]
  rw [Table.get?_ofList, hlookup, List.filter_reverse, List.map_reverse, List.head?_reverse]

/-- The first entry of joined lists is that of the first list. -/
theorem firstEntry?_intercalate (lists : List String) :
    firstEntry? (String.intercalate ", " lists) = lists.head?.bind firstEntry? := by
  have hblank : ", " = "," ++ " " := by decide
  cases lists with
  | nil => decide
  | cons first others =>
      cases others with
      | nil =>
          rw [String.intercalate_singleton]
          rfl
      | cons second others =>
          show _ = firstEntry? first
          rw [String.intercalate_cons_cons, hblank, ← String.append_assoc, String.append_assoc,
            firstEntry?_append]

namespace Http.Request

variable {request joined : Request} {name other : String}

/-- The values of the lines with a name in some case of its letters, in order. -/
def valuesOf (request : Request) (name : String) : List String :=
  HeaderList.valuesOf ⟨request.headers⟩ name

/-- The lines with other names than the given one, in order. -/
def linesWithout (request : Request) (name : String) : List (String × String) :=
  request.headers.filter fun line ↦ Text.lowercase line.1 ≠ Text.lowercase name

/-- `request.Joins name joined` says `joined` is the request with a single line in place of those
with a name, which joins their values. -/
structure Joins (request : Request) (name : String) (joined : Request) : Prop where
  method_eq : joined.method = request.method
  target_eq : joined.target = request.target
  body_eq : joined.body = request.body
  valuesOf_eq : joined.valuesOf name = [String.intercalate ", " (request.valuesOf name)]
  linesWithout_eq : joined.linesWithout name = request.linesWithout name

theorem valuesOf_eq_of_linesWithout (hne : Text.lowercase other ≠ Text.lowercase name) :
    request.valuesOf other = HeaderList.valuesOf ⟨request.linesWithout name⟩ other := by
  simp only [valuesOf, HeaderList.valuesOf, linesWithout, List.filter_filter]
  congr 2
  funext line
  by_cases hline : Text.lowercase line.1 = Text.lowercase other
  · simp [hline, hne]
  · simp [hline]

/-- Joining lines leaves the values of other names alone. -/
theorem Joins.valuesOf_of_ne (h : request.Joins name joined)
    (hne : Text.lowercase other ≠ Text.lowercase name) :
    joined.valuesOf other = request.valuesOf other := by
  rw [valuesOf_eq_of_linesWithout hne, valuesOf_eq_of_linesWithout hne, h.linesWithout_eq]

end Http.Request

/-- The host that a call is addressed to if the given list is what proxies report: the first one in
the list, else the one in the host header. -/
def WebhookCall.hostBy (call : WebhookCall) (list : Option String) : Option String :=
  (list.bind firstEntry?).or ((call.header? "host").bind nonBlank?)

namespace Server

variable {request joined : Http.Request}

/-- A header of the call has the value of the last readable line with its name. -/
theorem header?_webhookCall (request : Http.Request) (method : Method) (id : String)
    (suffix : Option String) (name : String) :
    (webhookCall request method id suffix).header? name =
      ((request.valuesOf name).filter HeaderList.isReadable).getLast? := by
  show (readableHeaders request.headers).get? (Text.lowercase name) = _
  rw [readableHeaders, Table.get?_ofList_eq_getLast?, Http.Request.valuesOf, HeaderList.valuesOf]
  simp only [List.filter_map, List.map_map, List.filter_filter, Function.comp_def, Bool.and_comm]

/-- Where a request repeats the line of forwarded hosts, the last line decides which host its call
is addressed to. If one line joins all of them, the first one decides. -/
theorem last_forwarded_line_decides (hjoins : request.Joins "x-forwarded-host" joined)
    (hreadable : ∀ value ∈ request.valuesOf "x-forwarded-host", HeaderList.isReadable value = true)
    (method : Method) (id : String) (suffix : Option String) :
    let call := webhookCall request method id suffix
    let other := webhookCall joined method id suffix
    let lines := request.valuesOf "x-forwarded-host"
    call.effectiveHost? = call.hostBy lines.getLast? ∧
      other.effectiveHost? = call.hostBy lines.head? ∧
      (other.effectiveHost? = call.effectiveHost? ↔
        call.hostBy lines.head? = call.hostBy lines.getLast?) ∧
      (call.hostBy lines.head? = call.hostBy lines.getLast? →
        ∀ signer : UrlSigner, signer.accepts other = signer.accepts call) := by
  intro call other lines
  have hlast : call.effectiveHost? = call.hostBy lines.getLast? := by
    have hline : call.header? "x-forwarded-host" = lines.getLast? := by
      rw [header?_webhookCall, List.filter_eq_self.2 hreadable]
    rw [← hline]
    rfl
  have hfirst : other.effectiveHost? = call.hostBy lines.head? := by
    -- the joined line can be read because the lines can
    have hline : other.header? "x-forwarded-host" = some (String.intercalate ", " lines) := by
      have hkept : HeaderList.isReadable (String.intercalate ", " lines) = true :=
        Text.all_toList_intercalate (by decide) hreadable
      rw [header?_webhookCall, hjoins.valuesOf_eq, List.filter_cons_of_pos hkept]
      rfl
    have hnamed : other.header? "host" = call.header? "host" := by
      rw [header?_webhookCall, header?_webhookCall, hjoins.valuesOf_of_ne (by decide)]
    rw [WebhookCall.effectiveHost?, hline, hnamed, Option.bind_some, firstEntry?_intercalate]
    rfl
  refine ⟨hlast, hfirst, by rw [hlast, hfirst], fun hagree signer ↦ ?_⟩
  refine UrlSigner.accepts_eq_of_same_host ?_ ?_ (hfirst.trans (hagree.trans hlast.symm))
  · show joined.target.path = request.target.path
    rw [hjoins.target_eq]
  · show (Table.ofList (Text.Percent.formPairs joined.target.query)).get? tokenParameter =
      (Table.ofList (Text.Percent.formPairs request.target.query)).get? tokenParameter
    rw [hjoins.target_eq]

/-- The first and the last of three lines agree, so joining the lines makes no difference. -/
theorem agreeing_lines_accepted_alike :
    let request : Http.Request := ⟨"GET", .parse "/webhook-waiting/7",
      [("X-Forwarded-Host", " example.com , proxy.local"), ("Host", "internal:5678"),
        ("x-forwarded-host", ""), ("X-Forwarded-Host", "example.com")], []⟩
    let joined : Http.Request := { request with headers := [("Host", "internal:5678"),
      ("X-Forwarded-Host", " example.com , proxy.local, , example.com")] }
    request.Joins "x-forwarded-host" joined ∧
      (∀ value ∈ request.valuesOf "x-forwarded-host", HeaderList.isReadable value = true) ∧
      (webhookCall request .get "7" none).effectiveHost? = some "example.com" ∧
      ∀ signer : UrlSigner, signer.accepts (webhookCall joined .get "7" none) =
        signer.accepts (webhookCall request .get "7" none) := by
  intro request joined
  have hjoins : request.Joins "x-forwarded-host" joined := ⟨rfl, rfl, rfl, by decide, by decide⟩
  have hreadable : ∀ value ∈ request.valuesOf "x-forwarded-host",
      HeaderList.isReadable value = true := by decide
  obtain ⟨hlast, _, _, haccepts⟩ := last_forwarded_line_decides hjoins hreadable .get "7" none
  exact ⟨hjoins, hreadable, hlast.trans (by decide), haccepts (by decide)⟩

/-- Two lines of forwarded hosts do not mean the same as the one line that joins them. -/
theorem joined_lines_address_another_host :
    let request : Http.Request := ⟨"GET", .parse "/webhook-waiting/7",
      [("X-Forwarded-Host", "example.com"), ("X-Forwarded-Host", "proxy.local"),
        ("Host", "internal:5678")], []⟩
    let joined : Http.Request := { request with headers :=
      [("X-Forwarded-Host", "example.com, proxy.local"), ("Host", "internal:5678")] }
    request.Joins "x-forwarded-host" joined ∧
      (∀ value ∈ request.valuesOf "x-forwarded-host", HeaderList.isReadable value = true) ∧
      (webhookCall joined .get "7" none).effectiveHost? = some "example.com" ∧
      (webhookCall request .get "7" none).effectiveHost? = some "proxy.local" := by
  intro request joined
  exact ⟨⟨rfl, rfl, rfl, by decide, by decide⟩, by decide, by decide, by decide⟩

end Server

end FlowGate
