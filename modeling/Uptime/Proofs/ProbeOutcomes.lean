import Mathlib
import Uptime.Probe.Run
import Uptime.Proofs.Reading
/-! How a check ends. A walk of requests stops on too many redirects, on an exchange or
an address that fails, or on the response it answers with, its `Ending`
(`walk_ending`). A failed exchange of the client's own kinds is a failure without a
status (`caught_cases`); the answer to the last response is a success with its 2xx status,
or a failure without a status or with its status when that is not 2xx (`finish_ok`).
So every outcome reports the status of the response that ended the check, and the only
errors that escape come from reading that response or from an address
(`probe_reports_or_escapes`). One does escape: a JSON body that escapes a surrogate
alone cannot be measured in UTF-8 (`probe_raises_on_lone_surrogate`). -/

namespace Uptime.Probe

open Uptime.Http Uptime.Json

/-! ### Failed exchanges -/

/-- Whether a failure is one the check catches: a timeout, or an error of the client or
of an address. -/
def Caught (f : Failure) : Prop :=
  f.isTimeout ∨ f.isClientError ∨ f.kind ∈ addressKinds

/-- A failed exchange is reported as a failure without a status, or passed on as it is
when the check does not catch it, or, for a timeout, fails on the timeout's milliseconds
when they are not a whole number. -/
theorem caught_cases (cfg : Config) (f : Failure) :
    (∃ g, caught cfg f = .ok (.failure g) ∧ g.status = 0) ∨
    (caught cfg f = .error f ∧ ¬ Caught f) ∨
    ∃ e, cfg.timeoutMs = .error e ∧ caught cfg f = .error ⟨e.kind, e.message⟩ := by
  unfold caught
  by_cases ht : f.isTimeout = true
  · rw [if_pos ht]
    rcases hms : cfg.timeoutMs with e | ms
    · exact .inr (.inr ⟨e, rfl, rfl⟩)
    · exact .inl ⟨_, rfl, rfl⟩
  · rw [if_neg ht]
    split
    · exact .inl ⟨_, rfl, rfl⟩
    · rename_i hc
      refine .inr (.inl ⟨rfl, ?_⟩)
      rintro (h | h | h)
      · exact ht h
      · simp [h] at hc
      · simp [h] at hc

/-! ### The answer to the last response -/

/-- The answer to a response whose body was read: a failure with the response's status
when that is not 2xx, else a success with it. -/
theorem answer_ok {resp : Response} {method : String} {k : Nat} {ct : Option String}
    {content : String} {codes : List Nat} {parsed : Value} {o : Outcome}
    (h : answer resp method k ct content codes parsed = .ok o) :
    (∃ g, o = .failure g ∧ isSuccess g.status = false ∧ g.status = resp.status) ∨
    (∃ s, o = .success s ∧ isSuccess s.status = true ∧ s.status = resp.status) := by
  unfold answer at h
  by_cases hs : isSuccess resp.status = true
  · -- a 2xx response succeeds once its size is known
    simp only [hs, Bool.not_true, Bool.false_eq_true, if_false] at h
    refine .inr ?_
    split at h
    · rcases hl : declaredLength resp.headers with e | size <;>
        simp [hl, bind, Except.bind, pure, Except.pure] at h
      exact ⟨_, h.symm, hs, rfl⟩
    · split at h
      · simp [throw, throwThe, MonadExceptOf.throw, bind, Except.bind] at h
      · simp [bind, Except.bind, pure, Except.pure] at h
        exact ⟨_, h.symm, hs, rfl⟩
  · have hs' : isSuccess resp.status = false := by simpa using hs
    simp only [hs', Bool.not_false, if_true, pure, Except.pure, Except.ok.injEq] at h
    exact .inl ⟨_, h.symm, hs', rfl⟩

/-- The outcome of the response that ends a check: a failure without a status, for a
body that is not JSON, or one with the response's status when that is not 2xx, or a
success with it. -/
theorem finish_ok {resp : Response} {method : String} {k : Nat} {o : Outcome}
    (h : finish resp method k = .ok o) :
    (∃ g, o = .failure g ∧ (g.status = 0 ∨ isSuccess g.status = false ∧ g.status = resp.status)) ∨
    (∃ s, o = .success s ∧ isSuccess s.status = true ∧ s.status = resp.status) := by
  unfold finish at h
  rcases hb : bodyCodes (resp.headers.get? "content-type") resp.body with e | codes
  · simp [hb, Except.mapError, bind, Except.bind] at h
  simp only [hb, Except.mapError, bind, Except.bind] at h
  have of_answer : ∀ {content codes parsed},
      answer resp method k (resp.headers.get? "content-type") content codes parsed = .ok o →
      (∃ g, o = .failure g ∧ (g.status = 0 ∨ isSuccess g.status = false ∧ g.status = resp.status)) ∨
      (∃ s, o = .success s ∧ isSuccess s.status = true ∧ s.status = resp.status) := by
    intro content codes parsed ha
    rcases answer_ok ha with ⟨g, rfl, hg, hgs⟩ | hsucc
    · exact .inl ⟨g, rfl, .inr ⟨hg, hgs⟩⟩
    · exact .inr hsucc
  split at h
  · split at h
    · split at h
      · simp [throw, throwThe, MonadExceptOf.throw] at h
      · simp only [pure, Except.pure, Except.ok.injEq] at h
        exact .inl ⟨_, h.symm, .inl rfl⟩
    · exact of_answer h
  · exact of_answer h

/-- A body that its content type calls JSON and that reads as the document `v` is answered
with the compact text of `v` and the code points of that text. -/
theorem finish_json {resp : Response} {method : String} {k : Nat} {ct : String}
    {codes : List Nat} {v : Value} (hct : resp.headers.get? "content-type" = some ct)
    (hjson : namesJson (some ct) = true)
    (hcodes : bodyCodes (some ct) resp.body = .ok codes) (hne : codes ≠ [])
    (hread : Value.read (String.ofList (codes.map Encoding.codeChar)) = .ok v) :
    finish resp method k =
      answer resp method k (some ct) (v.render .compact) (compactCodes v codes) v := by
  have htext : (String.ofList (codes.map Encoding.codeChar)).isEmpty = false := by
    simp [hne]
  unfold finish
  simp only [hct, hcodes, Except.mapError, bind, Except.bind, hjson, htext, hread]
  rfl

/-- Where the body read again, surrogates kept, gives a document whose compact text is as
long, the code points of the compact text are those of the first reading, each
character that differs given back as the code unit it keeps. -/
theorem compactCodes_of_keeping {v w : Value} {codes : List Nat}
    (hkeep : Value.readKeeping (String.ofList (codes.map fun n =>
      if Encoding.isSurrogateCode n then keptUnit n else Char.ofNat n)) = .ok w)
    (hlen : (v.render .compact).toList.length = (w.render .compact).toList.length) :
    compactCodes v codes = List.zipWith (fun c d => if c = d then c.toNat else unitKept d)
      (v.render .compact).toList (w.render .compact).toList := by
  unfold compactCodes
  simp only [hkeep, hlen, if_true]

/-! ### How a walk ends -/

/-- How a check through the transport `send`, having made the requests `calls`, ended
with `res`. -/
inductive Ending (send : Request → Except Failure Response) (cfg : Config)
    (calls : List Request) (res : Except Failure Outcome) : Prop
  /-- the requests allowed ran out -/
  | exhausted : res = .ok (.failure { totalMs := 0, error := "ProbeError" }) →
      Ending send cfg calls res
  /-- a redirect past the limit -/
  | tooManyRedirects : res = .ok (.failure
      { totalMs := 0, error := "Too many redirects (max " ++ toString cfg.maxRedirects ++ ")" }) →
      Ending send cfg calls res
  /-- an exchange that failed -/
  | exchange (req : Request) (f : Failure) : send req = .error f → res = caught cfg f →
      Ending send cfg calls res
  /-- an address that could not be sent to, or a redirect that could not be resolved -/
  | address (f : Failure) : ((∃ u, requestTarget u = .error f) ∨
      ∃ base loc, redirectTarget base loc = .error f) → res = caught cfg f →
      Ending send cfg calls res
  /-- the answer to the response to the last request -/
  | answered (req : Request) (resp : Response) (k : Nat) : calls.getLast? = some req →
      send req = .ok resp → res = finish resp req.method k → Ending send cfg calls res

theorem walk_ending (send : Request → Except Failure Response) (cfg : Config) (fuel : Nat)
    (w : Walk) (calls : List Request) :
    Ending send cfg (walk send cfg fuel w calls).1 (walk send cfg fuel w calls).2 := by
  induction fuel generalizing w calls with
  | zero => exact .exhausted rfl
  | succ fuel ih =>
    unfold walk
    rcases ht : requestTarget w.url with f | url
    · exact .address f (.inl ⟨w.url, ht⟩) rfl
    simp only
    rcases hs : send ⟨if w.useHead then "HEAD" else "GET", url⟩ with f | resp
    · exact .exchange _ f hs rfl
    simp only
    split
    · split
      · exact .tooManyRedirects rfl
      · split
        · rename_i f hf
          exact .address f (.inr ⟨url, _, hf⟩) rfl
        · exact ih _ _
    · split
      · exact ih _ _
      · split
        · exact ih _ _
        · exact .answered _ resp _ (by simp) hs rfl

/-! ### What a check reports -/

def Terminal (send : Request → Except Failure Response) (calls : List Request)
    (status : Int) : Prop :=
  ∃ req resp, calls.getLast? = some req ∧ send req = .ok resp ∧ resp.status = status

/-- Where an error that escapes a check comes from: reading the response to the last
request, an address the check could not send to, a redirect it could not resolve, or a
timeout whose milliseconds are not a whole number. -/
def Escape (send : Request → Except Failure Response) (cfg : Config) (calls : List Request)
    (f : Failure) : Prop :=
  (∃ req resp k, calls.getLast? = some req ∧ send req = .ok resp ∧
    finish resp req.method k = .error f) ∨
  (∃ u, requestTarget u = .error f) ∨ (∃ base loc, redirectTarget base loc = .error f) ∨
  ∃ e, cfg.timeoutMs = .error e ∧ f = ⟨e.kind, e.message⟩

theorem run_ending (send : Request → Except Failure Response) (cfg : Config) (url : String) :
    Ending send cfg (run send cfg url).1 (run send cfg url).2 :=
  walk_ending send cfg _ _ _

/-- With a transport that fails only with timeouts and errors of the client, a check
reports a success with the 2xx status of the last response, or a failure without a
status or with the last response's status when that is not 2xx. It raises only an error
met reading the last response, at an address it could not send to or a redirect it
could not resolve, or on a timeout too long to be told in milliseconds. -/
theorem probe_reports_or_escapes (send : Request → Except Failure Response) (cfg : Config)
    (url : String) (hsend : ∀ req f, send req = .error f → Caught f) :
    (∀ s, (run send cfg url).2 = .ok (.success s) →
      isSuccess s.status = true ∧ Terminal send (run send cfg url).1 s.status) ∧
    (∀ g, (run send cfg url).2 = .ok (.failure g) →
      g.status = 0 ∨ isSuccess g.status = false ∧ Terminal send (run send cfg url).1 g.status) ∧
    (∀ f, (run send cfg url).2 = .error f → Escape send cfg (run send cfg url).1 f) := by
  have hend := run_ending send cfg url
  generalize run send cfg url = p at hend ⊢
  obtain ⟨calls, res⟩ := p
  dsimp only at hend ⊢
  have of_caught : ∀ f, (¬ Caught f → Escape send cfg calls f) →
      (∀ s, caught cfg f = .ok (.success s) →
        isSuccess s.status = true ∧ Terminal send calls s.status) ∧
      (∀ g, caught cfg f = .ok (.failure g) →
        g.status = 0 ∨ isSuccess g.status = false ∧ Terminal send calls g.status) ∧
      (∀ f', caught cfg f = .error f' → Escape send cfg calls f') := by
    intro f hesc
    rcases caught_cases cfg f with ⟨g, hg, hg0⟩ | ⟨hg, hnot⟩ | ⟨e, he, hg⟩
    · simp [hg, hg0]
    · rw [hg]
      refine ⟨by simp, by simp, fun f' hf' => ?_⟩
      cases hf'
      exact hesc hnot
    · rw [hg]
      refine ⟨by simp, by simp, fun f' hf' => ?_⟩
      cases hf'
      exact .inr (.inr (.inr ⟨e, he, rfl⟩))
  cases hend with
  | exhausted hres => simp [hres]
  | tooManyRedirects hres => simp [hres]
  | exchange req f hf hres =>
    subst hres
    exact of_caught f fun hnot => absurd (hsend req f hf) hnot
  | address f hf hres =>
    subst hres
    exact of_caught f fun _ => .inr (hf.elim .inl fun h => .inr (.inl h))
  | answered req resp k hlast hresp hres =>
    subst hres
    refine ⟨fun s hs => ?_, fun g hg => ?_, fun f hf => .inl ⟨req, resp, k, hlast, hresp, hf⟩⟩
    · rcases finish_ok hs with ⟨g, hg, -⟩ | ⟨s', hs', hok, hst⟩
      · cases hg
      · cases hs'
        exact ⟨hok, req, resp, hlast, hresp, hst.symm⟩
    · rcases finish_ok hg with ⟨g', hg', hst⟩ | ⟨s', hs', -⟩
      · cases hg'
        rcases hst with h0 | ⟨hnot, hst⟩
        · exact .inl h0
        · exact .inr ⟨hnot, req, resp, hlast, hresp, hst.symm⟩
      · cases hs'

/-! ### Answers served as `application/json` -/

theorem namesJson_applicationJson : namesJson (some "application/json") = true := by
  decide +kernel

end Uptime.Probe

namespace Uptime.Encoding

theorem utf8Pieces_ascii {bs : List UInt8} (h : ∀ b ∈ bs, b < 0x80) :
    utf8Pieces bs = bs.map fun b => .char (Char.ofNat b.toNat) := by
  induction bs with
  | nil => rw [utf8Pieces.eq_1, List.map_nil]
  | cons b bs ih =>
    rw [utf8Pieces.eq_2, if_pos (h b List.mem_cons_self),
      ih fun c hc => h c (List.mem_cons_of_mem _ hc), List.map_cons]

end Uptime.Encoding

namespace Uptime.Http

theorem Headers.get?_singleton (k v : String) : Headers.get? [(k, v)] k = some v := by
  simp [Headers.get?, Headers.values]

theorem contentCharset_applicationJson : contentCharset "application/json" = .ok none := by
  decide +kernel

theorem bodyCodes_applicationJson {bs : List UInt8} (hne : bs ≠ []) (h : ∀ b ∈ bs, b < 0x80) :
    bodyCodes (some "application/json") bs = .ok (bs.map UInt8.toNat) := by
  simp [bodyCodes, hne, contentCharset_applicationJson, Encoding.Codec.readReplacing,
    Encoding.Codec.pieces, Encoding.utf8Pieces_ascii h, Encoding.replacedCodes, bind,
    Except.bind, pure, Except.pure]
  intro b hb
  have hlt : b.toNat < 0x80 := UInt8.lt_iff_toNat_lt.mp (h b hb)
  rw [Char.ofNat, dif_pos (Or.inl (by omega))]
  rfl

end Uptime.Http

namespace Uptime.Probe

open Uptime.Http Uptime.Json

/-- A response with status 200 and the JSON document `"\ud800"`, a string that escapes a
surrogate alone, as its eight ASCII bytes. -/
def loneSurrogateAnswer : Response :=
  ⟨200, [("content-type", "application/json")], [34, 92, 117, 100, 56, 48, 48, 34]⟩

def loneSurrogateSite (_ : Request) : Except Failure Response := .ok loneSurrogateAnswer

/-- Checked with the default configuration, that site's failure-free transport gives a
check that ends on its answer to a `GET`. -/
theorem lone_surrogate_check_escapes :
    (∀ req f, loneSurrogateSite req = .error f → Caught f) ∧
    ((∀ s, (run loneSurrogateSite {} "example.com").2 = .ok (.success s) →
      isSuccess s.status = true ∧ Terminal loneSurrogateSite
        (run loneSurrogateSite {} "example.com").1 s.status) ∧
    (∀ g, (run loneSurrogateSite {} "example.com").2 = .ok (.failure g) →
      g.status = 0 ∨ isSuccess g.status = false ∧ Terminal loneSurrogateSite
        (run loneSurrogateSite {} "example.com").1 g.status) ∧
    (∀ f, (run loneSurrogateSite {} "example.com").2 = .error f →
      Escape loneSurrogateSite {} (run loneSurrogateSite {} "example.com").1 f)) := by
  have hsend : ∀ req f, loneSurrogateSite req = .error f → Caught f := by
    intro req f h
    cases h
  exact ⟨hsend, probe_reports_or_escapes loneSurrogateSite {} "example.com" hsend⟩

private theorem lone_surrogate_string (standIn : Nat → Char) :
    readString (LoneSurrogate.readAs standIn).allowed 0 ['\\', 'u', 'd', '8', '0', '0', '"'] 1 [] =
      .ok ([0xD800], ⟨[], 8⟩) := by
  rw [readString_unit (by decide : hex4? ['d', '8', '0', '0'] = some 0xD800) (by decide),
    show loneUnit (LoneSurrogate.readAs standIn).allowed 0xD800 1 = .ok 0xD800 from rfl]
  exact readString.eq_2 _ _ _ _ _

/-- Answered to a `GET`, the document reads as the replacement character, and read again
keeping the surrogate, its compact text holds the surrogate alone at position 1. -/
private theorem finish_lone_surrogate :
    finish loneSurrogateAnswer "GET" 0 = .error ⟨"UnicodeEncodeError",
      "'utf-8' codec can't encode character '\\ud800' in position 1: surrogates not allowed"⟩ := by
  have hcodes : bodyCodes (some "application/json") loneSurrogateAnswer.body =
      .ok [34, 92, 117, 100, 56, 48, 48, 34] :=
    bodyCodes_applicationJson (by simp [loneSurrogateAnswer]) (by simp [loneSurrogateAnswer])
  have hread : Value.read (String.ofList ([34, 92, 117, 100, 56, 48, 48, 34].map
      Encoding.codeChar)) = .ok (.str "\uFFFD") := by
    rw [Value.read, readWith_str ?_ (lone_surrogate_string _)]
    · rfl
    · rw [String.toList_ofList]
      decide
  have hkeep : Value.readKeeping (String.ofList ([34, 92, 117, 100, 56, 48, 48, 34].map fun n =>
      if Encoding.isSurrogateCode n then keptUnit n else Char.ofNat n)) =
      .ok (.str (String.ofList [keptUnit 0xD800])) := by
    rw [Value.readKeeping, readWith_str ?_ (lone_surrogate_string _)]
    · rfl
    · rw [String.toList_ofList]
      decide
  have hplain : (Value.render .compact (.str "\uFFFD")).toList = ['"', '\uFFFD', '"'] := by
    decide
  have hkept : (Value.render .compact (.str (String.ofList [keptUnit 0xD800]))).toList =
      ['"', keptUnit 0xD800, '"'] := by
    decide +kernel
  have hzip : List.zipWith (fun c d => if c = d then c.toNat else unitKept d) ['"', '\uFFFD', '"']
      ['"', keptUnit 0xD800, '"'] = [34, 0xD800, 34] := by
    decide
  rw [finish_json (Headers.get?_singleton _ _) namesJson_applicationJson hcodes (by decide) hread,
    compactCodes_of_keeping hkeep (by rw [hplain, hkept]; rfl), hplain, hkept, hzip]
  unfold answer
  rw [show Encoding.encodeUtf8 [34, 0xD800, 34] = .error ⟨[0xD800], 1⟩ by decide]
  rfl

set_option maxRecDepth 100000 in
/-- A check can raise although its transport never fails: after a `HEAD` and a `GET`, the
site's document is read, written back with the surrogate alone, and that text has no
UTF-8 length. -/
theorem probe_raises_on_lone_surrogate :
    (run loneSurrogateSite {} "example.com").1.map Request.method = ["HEAD", "GET"] ∧
    (run loneSurrogateSite {} "example.com").2 = .error ⟨"UnicodeEncodeError",
      "'utf-8' codec can't encode character '\\ud800' in position 1: surrogates not allowed"⟩ := by
  refine ⟨by with_unfolding_all rfl, ?_⟩
  rw [← finish_lone_surrogate]
  with_unfolding_all rfl

end Uptime.Probe
