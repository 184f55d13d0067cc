import Mathlib
import Uptime.Certificate
/-! Inspecting a certificate answers for every address that can be split. The peer asked
is the one the address names (`Asks`): its host, when the scheme is `https`, the host is
not empty and the port can be read, at that port, or at 443 for none or 0
(`peer?_of_ok`). With an offset on `now`, what is fetched is always read
(`ofFetched_of_aware`): valid exactly when the expiry, read as UTC when it has none, is
later than now, and no expiry when nothing came back. So inspection reports for every
address that splits, and fails only on one that does not, with the split error
(`inspect_answers_every_splittable_address`); an address with an unclosed bracket is
such a one (`inspect_raises_on_unclosed_bracket`). -/

namespace Uptime.Certificate

open Uptime.Url Uptime.Time

def Asks (p : Parts) (pr : Peer) : Prop :=
  p.scheme = "https" ∧ p.hostname? = some pr.host ∧ pr.host ≠ "" ∧
    ∃ port, p.port? = .ok port ∧ pr.port = (port.filter (· != 0)).getD 443

theorem peer?_of_error {url : String} {e : SplitError} (h : split url = .error e) :
    peer? url = .error e := by
  simp [peer?, h, bind, Except.bind]

theorem peer?_of_ok {url : String} {p : Parts} (h : split url = .ok p) :
    ∃ asked, peer? url = .ok asked ∧ ∀ pr, asked = some pr ↔ Asks p pr := by
  unfold peer?
  simp only [h, bind, Except.bind, Asks]
  by_cases hs : p.scheme = "https"
  swap
  · exact ⟨none, by simp [hs]; rfl, fun pr => by simp [hs]⟩
  rcases hh : p.hostname? with _ | host
  · exact ⟨none, by simp [hs]; rfl, fun pr => by simp⟩
  by_cases he : host.isEmpty
  · refine ⟨none, by simp [hs, he]; rfl, fun pr => ?_⟩
    simp only [reduceCtorEq, false_iff, not_and, Option.some.injEq]
    rintro - rfl hne
    exact absurd (String.isEmpty_iff.1 he) hne
  rcases hp : p.port? with err | port
  · refine ⟨none, by simp [hs, he]; rfl, fun pr => by simp⟩
  refine ⟨some ⟨host, (port.filter (· != 0)).getD 443⟩, ?_, fun pr => ?_⟩
  · simp only [hs, he, bne_self_eq_false, Bool.false_eq_true, if_false]
    rcases port with _ | _ | n <;> rfl
  · constructor
    · intro hpr
      obtain rfl := Option.some.inj hpr
      exact ⟨hs, rfl, fun h => he (String.isEmpty_iff.2 h), port, rfl, rfl⟩
    · rintro ⟨-, hhost, -, port', hport, hpr⟩
      obtain rfl := Except.ok.inj hport
      rw [Option.some.inj hhost, ← hpr]

theorem ofFetched_of_aware {now : Moment} (hnow : now.offset.isSome) (f : Fetched) :
    ∃ info, Info.ofFetched f now = .ok info ∧
      (info.valid = true ↔ ∃ t, f = .expiry t ∧ now.key < t.epochMicros) ∧
      (f = .nothing → info.expiry = 0) := by
  cases f with
  | nothing => exact ⟨{}, rfl, by simp, fun _ => rfl⟩
  | expiry t =>
    have hread : ∃ t' : Moment,
        (if t.offset.isNone then { t with offset := some 0 } else t) = t' ∧
          t'.offset.isSome ∧ t'.key = t.epochMicros := by
      rcases ho : t.offset with _ | o
      · exact ⟨_, rfl, by simp, by simp [Moment.key, Moment.epochMicros, ho]⟩
      · exact ⟨t, by simp, by simp [ho], rfl⟩
    obtain ⟨t', ht', haware, hkey⟩ := hread
    have hkind : now.sameKind t' := by simp [Moment.sameKind, hnow, haware]
    refine ⟨{ valid := decide (now.key < t'.key), expiry := t'.epochMillis }, ?_, ?_, by simp⟩
    · simp only [Info.ofFetched, ht', Moment.lt, hkind, if_true]
      rfl
    · simp [hkey]

/-- **Inspection answers for every address that splits.** With an offset on `now`, an
address that cannot be split fails with its split error. Inspecting one that splits
answers: it asks exactly the peer the address names, reports the certificate valid exactly
when that peer's certificate has an expiry later than now (an expiry without an offset read
as UTC), and reports an expiry of 0 when no expiry was obtained. -/
theorem inspect_answers_every_splittable_address (url : String) (fetch : Peer → Fetched)
    (now : Moment) (hnow : now.offset.isSome) :
    (∀ e, split url = .error e → inspect url fetch now = .error (.address e)) ∧
    ∀ p, split url = .ok p → ∃ asked info, inspect url fetch now = .ok (asked, info) ∧
      (∀ pr, asked = some pr ↔ Asks p pr) ∧
      (info.valid = true ↔
        ∃ pr t, Asks p pr ∧ fetch pr = .expiry t ∧ now.key < t.epochMicros) ∧
      ((∀ pr t, Asks p pr → fetch pr ≠ .expiry t) → info.expiry = 0) := by
  refine ⟨fun e he => ?_, fun p hp => ?_⟩
  · simp [inspect, peer?_of_error he, Except.mapError, bind, Except.bind]
  obtain ⟨asked, hpeer, hasks⟩ := peer?_of_ok hp
  cases asked with
  | none =>
    refine ⟨none, {}, by simp [inspect, hpeer, Except.mapError, bind, Except.bind]; rfl,
      hasks, ?_, fun _ => rfl⟩
    simp only [Bool.false_eq_true, false_iff, not_exists, not_and]
    intro pr t hpr
    exact absurd ((hasks pr).2 hpr) (by simp)
  | some pr =>
    obtain ⟨info, hinfo, hvalid, hzero⟩ := ofFetched_of_aware hnow (fetch pr)
    refine ⟨some pr, info, ?_, hasks, ?_, ?_⟩
    · simp [inspect, hpeer, hinfo, Except.mapError, bind, Except.bind]; rfl
    · -- the one peer asked is `pr`
      rw [hvalid]
      constructor
      · rintro ⟨t, ht, hlt⟩
        exact ⟨pr, t, (hasks pr).1 rfl, ht, hlt⟩
      · rintro ⟨pr', t, hpr', ht, hlt⟩
        obtain rfl := Option.some.inj ((hasks pr').2 hpr')
        exact ⟨t, ht, hlt⟩
    · intro hnone
      apply hzero
      cases hf : fetch pr with
      | nothing => rfl
      | expiry t => exact absurd hf (hnone pr t ((hasks pr).1 rfl))

/-- An address whose port is 0, with a certificate that expires a second after now. -/
theorem inspect_reads_certificate_at_default_port :
    let url := "https://example.com:0/"
    let fetch : Peer → Fetched := fun _ => .expiry ⟨1000000, none⟩
    let now : Moment := ⟨0, some 0⟩
    now.offset.isSome ∧
      (∀ e, split url = .error e → inspect url fetch now = .error (.address e)) ∧
      ∀ p, split url = .ok p → ∃ asked info, inspect url fetch now = .ok (asked, info) ∧
        (∀ pr, asked = some pr ↔ Asks p pr) ∧
        (info.valid = true ↔
          ∃ pr t, Asks p pr ∧ fetch pr = .expiry t ∧ now.key < t.epochMicros) ∧
        ((∀ pr t, Asks p pr → fetch pr ≠ .expiry t) → info.expiry = 0) :=
  ⟨rfl, inspect_answers_every_splittable_address _ _ _ rfl⟩

/-- An address with an opening bracket and no closing one cannot be split, so inspecting
it fails instead of reporting an invalid certificate. -/
theorem inspect_raises_on_unclosed_bracket :
    inspect "https://[abc/" (fun _ => .nothing) ⟨0, some 0⟩ =
      .error (.address .unpairedBracket) := by
  rfl

end Uptime.Certificate
