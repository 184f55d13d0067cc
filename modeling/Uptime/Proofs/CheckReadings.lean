import Mathlib
import Uptime.Proofs.CheckStages
import Uptime.Proofs.ProbeOutcomes
/-! The readings a check attaches to its result. The check hands the extraction the body
as the prober read it: the document when there is one, else the text. The extraction
takes a document as it is (`extract_doc`), but reads a document that is a string again,
as text; the null document, which the prober leaves as the text `null`, reads back as
itself when the content type names JSON (`extract_null_text`). So the readings of a
check are those of its document taken directly, unless the document is a string
(`checkUptime_json_data`); a string that is not JSON text then gives no readings,
where the document itself gives the reading `value` (`checkUptime_drops_string_reading`). -/

namespace Uptime.Extraction

open Uptime.Json

def direct (doc : Value) (c : Config) : Except Fault (Option (List (String × Value))) :=
  if c.enabled then readings doc c else .ok none

theorem extract_of_document {b : Body} {ct : Option String} {doc : Value}
    (h : b.document? ct = .ok (some doc)) (c : Config) :
    extract b ct c = direct doc c := by
  unfold extract direct
  cases c.enabled <;> simp [h, bind, Except.bind]

theorem extract_doc {doc : Value} (h : ∀ t, doc ≠ .str t) (ct : Option String) (c : Config) :
    extract (.doc doc) ct c = direct doc c := by
  refine extract_of_document ?_ c
  cases doc with
  | str t => exact absurd rfl (h t)
  | _ => rfl

theorem extract_str (t : String) (ct : Option String) (c : Config) :
    extract (.doc (.str t)) ct c = extract (.text t) ct c := rfl

theorem read_null : Value.read "null" = .ok .null := by
  have hv : readValue (.readAs fun _ => '\uFFFD') maxNesting (2 * ("ull".toList.length + 1) + 2)
      ⟨'n' :: "ull".toList, 0⟩ = .ok (.null, ⟨[], 4⟩) := rfl
  exact readWith_of_value (by decide) (by decide) (by decide) hv (by simp [Cursor.skipBlanks])

theorem extract_null_text {ct : Option String} (hct : ct.all namesJson = true) (c : Config) :
    extract (.text "null") ct c = direct .null c := by
  have hstrip : Text.strip "null" = "null" := by decide
  have hjson : ct.any (fun ct => !namesJson ct) = false := by
    cases ct <;> simp_all
  refine extract_of_document ?_ c
  simp [Body.document?, textDocument?, hstrip, hjson, read_null]

end Uptime.Extraction

namespace Uptime.Service

open Uptime.Json Uptime.Monitor Uptime.Store

variable {env : Surroundings} {s : Node} {m url : String} {n : Int}

def bodyOf (x : Probe.Success) : Extraction.Body :=
  if x.parsedJson.isNull then .text x.content else .doc x.parsedJson

/-- A check that got through its write and returned reports the stored readings of the
body it handed the extraction. -/
theorem checkUptime_jsonData {c : Extraction.Config} {x : Probe.Success} {ip : String}
    {prev : Option State} {states : StateStore} {disk : Disk} {r : Result}
    (hk : Kept m url env s (.success x) ip prev states disk)
    (hr : ((checkUptime m url n (some c)).run' env s).1 = .ok r) :
    Option.map Extraction.stored <$> Extraction.extract (bodyOf x) x.contentType c =
      .ok r.jsonData := by
  obtain ⟨hP, ⟨calls, hL⟩, hG, hW⟩ := hk
  simp only [Probe.Outcome.status] at hW
  simp only [checkUptime, Act.run'_bind, Act.run'_read, Act.run'_get, run'_note, run'_lift,
    run'_stateOf, run'_keepState, hP, hL, hG, hW, Except.mapError] at hr
  rcases hI : Certificate.inspect (Probe.normalizeUrl url) env.certificates env.now
    with e | ⟨peer, cert⟩
  · simp [hI] at hr
  rcases hu : x.unencodable with _ | e
  · rcases hx : Extraction.extract (bodyOf x) x.contentType c with e | found
    · simp only [bodyOf] at hx
      simp [hI, hu, hx, readingsOf, Act.run'_map, Except.mapError] at hr
    · simp only [bodyOf] at hx
      simp [hI, hu, hx, readingsOf, Act.run'_map, Except.mapError] at hr
      subst hr
      rfl
  · simp [hI, hu, Act.run'_bind] at hr

/-- The readings a returning check reports for a body served as JSON, the prober's text of
it being the compact text of its document: those of the document taken directly, unless
the document is a string, which is read again as text. -/
theorem checkUptime_json_data {c : Extraction.Config} {x : Probe.Success} {ip : String}
    {prev : Option State} {states : StateStore} {disk : Disk} {r : Result}
    (hk : Kept m url env s (.success x) ip prev states disk)
    (hct : x.contentType.all Extraction.namesJson = true)
    (hcontent : x.content = x.parsedJson.render Layout.compact)
    (hr : ((checkUptime m url n (some c)).run' env s).1 = .ok r) :
    ((∀ t, x.parsedJson ≠ .str t) →
      Option.map Extraction.stored <$> Extraction.direct x.parsedJson c = .ok r.jsonData) ∧
    ∀ t, x.parsedJson = .str t →
      Option.map Extraction.stored <$> Extraction.extract (.text t) x.contentType c =
        .ok r.jsonData := by
  have hdata := checkUptime_jsonData hk hr
  refine ⟨fun hne => ?_, fun t ht => ?_⟩
  · rw [← hdata, bodyOf]
    by_cases hnull : x.parsedJson = .null
    · -- the null document reaches the extraction as the text the prober wrote for it
      have htext : x.content = "null" := by
        rw [hcontent, hnull]
        rfl
      rw [hnull, htext, Value.isNull, if_pos rfl, Extraction.extract_null_text hct]
    · have hnot : x.parsedJson.isNull = false := by
        cases h : x.parsedJson <;> simp_all [Value.isNull]
      rw [hnot, if_neg Bool.false_ne_true, Extraction.extract_doc hne]
  · rw [← hdata, bodyOf, ht]
    rfl

/-! ### A document that is a string -/

def helloAnswer : Http.Response :=
  ⟨200, [("content-type", "application/json")], [34, 104, 101, 108, 108, 111, 34]⟩

def helloSuccess : Probe.Success :=
  { status := 200, ttfbMs := 0, totalMs := 0, redirects := 0, responseBytes := 7,
    content := "\"hello\"", contentType := some "application/json", parsedJson := .str "hello" }

/-- Surroundings where every site answers `helloAnswer` and nothing else is reachable,
with the clock at 2026-03-01T12:00 UTC. -/
def helloSurroundings : Surroundings :=
  { Surroundings.offline ⟨1772366400000000, some 0⟩ .accepting with
    sites := fun _ => .ok helloAnswer }

private theorem finish_hello : Probe.finish helloAnswer "GET" 0 = .ok (.success helloSuccess) := by
  have hcodes : Http.bodyCodes (some "application/json") helloAnswer.body =
      .ok [34, 104, 101, 108, 108, 111, 34] :=
    Http.bodyCodes_applicationJson (by simp [helloAnswer]) (by simp [helloAnswer])
  have hplain : ∀ c ∈ ['h', 'e', 'l', 'l', 'o'], Plain c := by
    intro c hc
    simp only [List.mem_cons, List.not_mem_nil, or_false] at hc
    rcases hc with rfl | rfl | rfl | rfl | rfl <;> decide
  have htext : String.ofList ([34, 104, 101, 108, 108, 111, 34].map Encoding.codeChar) =
      String.ofList ('"' :: ['h', 'e', 'l', 'l', 'o'] ++ ['"']) := by
    decide
  have hkept : String.ofList ([34, 104, 101, 108, 108, 111, 34].map fun n =>
      if Encoding.isSurrogateCode n then keptUnit n else Char.ofNat n) =
      String.ofList ('"' :: ['h', 'e', 'l', 'l', 'o'] ++ ['"']) := by
    decide
  have hrender : Value.render .compact (.str (String.ofList ['h', 'e', 'l', 'l', 'o'])) =
      "\"hello\"" := by
    decide
  rw [Probe.finish_json (Http.Headers.get?_singleton _ _) Probe.namesJson_applicationJson hcodes
      (by decide) (by rw [htext, Value.read, readWith_quoted hplain]),
    Probe.compactCodes_of_keeping (by rw [hkept, Value.readKeeping, readWith_quoted hplain]) rfl,
    hrender]
  unfold Probe.answer
  rw [show Encoding.encodeUtf8 (List.zipWith (fun c d => if c = d then c.toNat else unitKept d)
    "\"hello\"".toList "\"hello\"".toList) = .ok [34, 104, 101, 108, 108, 111, 34] by decide]
  rfl

set_option maxRecDepth 100000 in
private theorem hello_kept :
    Kept "m1" "example.com" helloSurroundings freshService (.success helloSuccess) Probe.unknownIp
      none (.memory [("m1", State.next "m1" .up none helloSurroundings.now)]) {} :=
  ⟨by rw [← finish_hello]; with_unfolding_all rfl, ⟨_, by with_unfolding_all rfl⟩, rfl, rfl⟩

private theorem hello_extract :
    Extraction.extract (.doc (.str "hello")) (some "application/json") {} = .ok none := by
  have hv : readValue (.readAs fun _ => '\uFFFD') maxNesting (2 * ("ello".toList.length + 1) + 2)
      ⟨'h' :: "ello".toList, 0⟩ = .error ⟨.expectingValue, 0⟩ := rfl
  have hread : Value.read "hello" = .error ⟨.expectingValue, 0⟩ :=
    readWith_of_error (by decide) (by decide) (by decide) hv
  have hstrip : Text.strip "hello" = "hello" := by decide
  simp [Extraction.extract, Extraction.Body.document?, Extraction.textDocument?, hstrip, hread,
    ReadError.tooDeep, bind, Except.bind, pure, Except.pure]

set_option maxRecDepth 100000 in
private theorem hello_check_returns :
    ∃ r, ((checkUptime "m1" "example.com" 1 (some {})).run' helloSurroundings freshService).1 =
      .ok r := by
  refine (checkUptime_run'_of_kept 1 (some {}) hello_kept).2.1.mpr ?_
  rintro (⟨e, he⟩ | ⟨x, hx, hu | ⟨c, e, hc, he⟩⟩)
  · have hok : (Certificate.inspect (Probe.normalizeUrl "example.com")
        helloSurroundings.certificates helloSurroundings.now).isOk = true := by
      with_unfolding_all rfl
    rw [he] at hok
    cases hok
  · cases hx
    cases hu
  · cases hx
    cases hc
    change Extraction.extract (.doc (.str "hello")) (some "application/json") {} = .error e at he
    rw [hello_extract] at he
    cases he

/-- Checked with readings in the automatic mode, a site serving the JSON document
`"hello"` gives a result whose readings are those of the text `hello`. -/
theorem hello_check_reads_string_again :
    ∃ r, ((checkUptime "m1" "example.com" 1 (some {})).run' helloSurroundings freshService).1 =
      .ok r ∧ helloSuccess.contentType.all Extraction.namesJson = true ∧
      helloSuccess.content = helloSuccess.parsedJson.render Layout.compact ∧
      ((∀ t, helloSuccess.parsedJson ≠ .str t) →
        Option.map Extraction.stored <$> Extraction.direct helloSuccess.parsedJson {} =
          .ok r.jsonData) ∧
      ∀ t, helloSuccess.parsedJson = .str t →
        Option.map Extraction.stored <$> Extraction.extract (.text t) helloSuccess.contentType {} =
          .ok r.jsonData := by
  obtain ⟨r, hr⟩ := hello_check_returns
  have hct : helloSuccess.contentType.all Extraction.namesJson = true := by decide
  have hcontent : helloSuccess.content = helloSuccess.parsedJson.render Layout.compact := by
    decide
  exact ⟨r, hr, hct, hcontent, checkUptime_json_data hello_kept hct hcontent hr⟩

/-- A document that is a string loses its reading: taken directly, the document `"hello"`
reads as `value`, but the check reads the text `hello` again, which is not JSON, and
reports no readings. -/
theorem checkUptime_drops_string_reading :
    Extraction.direct (.str "hello") {} = .ok (some [("value", .str "hello")]) ∧
    ∃ r, ((checkUptime "m1" "example.com" 1 (some {})).run' helloSurroundings freshService).1 =
      .ok r ∧ r.jsonData = none := by
  refine ⟨rfl, ?_⟩
  obtain ⟨r, hr⟩ := hello_check_returns
  have hdata := checkUptime_jsonData hello_kept hr
  rw [show bodyOf helloSuccess = .doc (.str "hello") from rfl,
    show helloSuccess.contentType = some "application/json" from rfl, hello_extract] at hdata
  exact ⟨r, hr, (Except.ok.inj hdata).symm⟩

end Uptime.Service
