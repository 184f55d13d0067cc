import Mathlib
import Uptime.Signing
/-! Which signatures a verifier accepts. A signature is 64 lower-case hexadecimal digits
(`sign_hex`), since a digest is 32 bytes (`sha256_length`). Stripped of blanks and put in
lower case, a signature written with blanks around it or in upper case is the signature
itself (`normalized_padded`, `normalized_padded_upper`). A verifier accepts exactly the
signatures that are not empty and, normalized, are the signature of the body under one of
its keys; it cannot compare a normalized signature with a character outside ASCII, and
fails on one exactly when it holds a key (`verify_accepts_keys_or_fails_outside_ascii`).
So a request signed under the current or the next key is accepted, also written in upper
case or with blanks around it, and without keys nothing is. -/

namespace Uptime.Signing

open Uptime.Text Uptime.Digest

/-! ### Digests in hexadecimal -/

theorem round_length (s : List UInt32) (k w : UInt32) :
    (Digest.round s k w).length = s.length := by
  unfold Digest.round
  split <;> simp_all

theorem compress_length (s : List UInt32) (block : List UInt8) :
    (compress s block).length = s.length := by
  have hmix : ∀ (f g : Nat → UInt32) (is : List Nat) (st : List UInt32),
      (is.foldl (fun st i => Digest.round st (f i) (g i)) st).length = st.length := by
    intro f g is
    induction is with
    | nil => intro st; rfl
    | cons i is ih => intro st; rw [List.foldl_cons, ih, round_length]
  unfold compress
  simp only [List.length_zipWith, hmix, Nat.min_self]

theorem sha256_length (msg : List UInt8) : (sha256 msg).length = 32 := by
  have hstate : ∀ (bs : List (List UInt8)) (st : List UInt32),
      (bs.foldl compress st).length = st.length := by
    intro bs
    induction bs with
    | nil => intro st; rfl
    | cons b bs ih => intro st; rw [List.foldl_cons, ih, compress_length]
  have h8 : ((blocks (pad msg)).foldl compress initialState).length = 8 := by
    rw [hstate]; rfl
  unfold sha256
  generalize (blocks (pad msg)).foldl compress initialState = st at h8
  simp [List.length_flatMap, bytesOf, h8]

def hexChar (n : Nat) : Char :=
  if n < 10 then Char.ofNat (48 + n) else Char.ofNat (87 + n)

theorem hexOf_eq (bs : List UInt8) :
    hexOf bs = String.ofList (bs.flatMap fun b => [hexChar (b.toNat / 16), hexChar (b.toNat % 16)]) :=
  rfl

theorem sign_hex (key : String) (body : List UInt8) :
    (sign key body).length = 64 ∧ ∀ c ∈ (sign key body).toList, ∃ n < 16, c = hexChar n := by
  unfold sign hmacSha256
  rw [hexOf_eq, String.length_ofList, String.toList_ofList]
  refine ⟨by simp [List.length_flatMap, sha256_length], ?_⟩
  intro c hc
  obtain ⟨b, -, hb⟩ := List.mem_flatMap.1 hc
  rcases List.mem_pair.1 hb with rfl | rfl
  · exact ⟨b.toNat / 16, by have := b.toNat_lt; omega, rfl⟩
  · exact ⟨b.toNat % 16, by omega, rfl⟩

theorem hexChar_ascii : ∀ n < 16, (hexChar n).toNat ≤ 0x7F := by
  decide

theorem hexChar_plain : ∀ n < 16,
    isBlank (hexChar n) = false ∧ isBlank (hexChar n).toUpper = false ∧
    hexChar n ≠ 'Σ' ∧ (hexChar n).toUpper ≠ 'Σ' := by
  decide

/-- A digit in lower case is itself, and in upper case it is its ASCII capital, whose
lower case is the digit again. -/
theorem hexChar_case : ∀ n < 16,
    lowerOf (hexChar n) = (hexChar n).toString ∧
    upperOf (hexChar n) = (hexChar n).toUpper.toString ∧
    lowerOf (hexChar n).toUpper = (hexChar n).toString := by
  decide +kernel

/-! ### Blanks and case -/

theorem join_toString (cs : List Char) : String.join (cs.map Char.toString) = String.ofList cs := by
  apply String.toList_inj.1
  simp [String.toList_join, List.flatMap_map, Char.toString]

theorem lowerIn_of_no_sigma (before cs : List Char) (h : 'Σ' ∉ cs) :
    lowerIn before cs = String.join (cs.map lowerOf) := by
  induction cs generalizing before with
  | nil => rfl
  | cons c cs ih =>
    have hc : c ≠ 'Σ' := fun e => h (e ▸ List.mem_cons_self)
    rw [lowerIn, if_neg hc, ih _ fun e => h (List.mem_cons_of_mem c e), List.map_cons,
      String.join_cons]

theorem dropBlanksRight_append (cs ds : List Char) (hcs : ∀ c ∈ cs, isBlank c = false)
    (hds : ∀ d ∈ ds, isBlank d) : dropBlanksRight (cs ++ ds) = cs := by
  unfold dropBlanksRight
  rw [List.reverse_append, List.dropWhile_append_of_pos (by simpa using hds)]
  rcases hr : cs.reverse with _ | ⟨c, rest⟩
  · simp_all
  · have hc : isBlank c = false := hcs c (List.mem_reverse.1 (by simp [hr]))
    rw [List.dropWhile_cons_of_neg (by simp [hc]), ← hr, List.reverse_reverse]

/-- Stripping text with blanks around characters that are not blank gives those
characters. -/
theorem strip_around (pre t post : String) (hpre : ∀ c ∈ pre.toList, isBlank c)
    (hpost : ∀ c ∈ post.toList, isBlank c) (ht : ∀ c ∈ t.toList, isBlank c = false) :
    strip (pre ++ t ++ post) = t := by
  unfold strip
  rw [String.toList_append, String.toList_append, List.append_assoc,
    List.dropWhile_append_of_pos hpre]
  rcases htl : t.toList with _ | ⟨c, cs⟩
  · -- nothing but blanks
    rw [List.nil_append, List.dropWhile_eq_nil_iff.2 hpost, ← String.toList_inj, htl]
    rfl
  · have hc : isBlank c = false := ht c (by simp [htl])
    rw [List.cons_append, List.dropWhile_cons_of_neg (by simp [hc]), ← List.cons_append, ← htl,
      dropBlanksRight_append _ _ ht hpost, String.ofList_toList]

/-- Characters, each written so that it is not blank and its lower case is the character,
normalize back to themselves from between blanks. -/
theorem normalized_around (pre post : String) (hpre : ∀ c ∈ pre.toList, isBlank c)
    (hpost : ∀ c ∈ post.toList, isBlank c) (cs : List Char) (f : Char → Char)
    (hf : ∀ c ∈ cs, isBlank (f c) = false ∧ f c ≠ 'Σ' ∧ lowerOf (f c) = c.toString) :
    normalized (pre ++ String.ofList (cs.map f) ++ post) = String.ofList cs := by
  have hstrip := strip_around pre (String.ofList (cs.map f)) post hpre hpost fun d hd => by
    obtain ⟨c, hc, rfl⟩ := List.mem_map.1 (String.toList_ofList ▸ hd)
    exact (hf c hc).1
  unfold normalized lower
  rw [hstrip, String.toList_ofList, lowerIn_of_no_sigma, List.map_map, ← join_toString]
  · exact congrArg String.join (List.map_congr_left fun c hc => (hf c hc).2.2)
  · intro hs
    obtain ⟨c, hc, he⟩ := List.mem_map.1 hs
    exact (hf c hc).2.1 he

theorem normalized_padded (key : String) (body : List UInt8) (pre post : String)
    (hpre : ∀ c ∈ pre.toList, isBlank c)
    (hpost : ∀ c ∈ post.toList, isBlank c) :
    normalized (pre ++ sign key body ++ post) = sign key body := by
  have h := normalized_around pre post hpre hpost (sign key body).toList id fun c hc => by
    obtain ⟨n, hn, rfl⟩ := (sign_hex key body).2 c hc
    exact ⟨(hexChar_plain n hn).1, (hexChar_plain n hn).2.2.1, (hexChar_case n hn).1⟩
  rwa [List.map_id, String.ofList_toList] at h

theorem normalized_padded_upper (key : String) (body : List UInt8) (pre post : String)
    (hpre : ∀ c ∈ pre.toList, isBlank c)
    (hpost : ∀ c ∈ post.toList, isBlank c) :
    normalized (pre ++ upper (sign key body) ++ post) = sign key body := by
  have hdigit := (sign_hex key body).2
  have hup : upper (sign key body) = String.ofList ((sign key body).toList.map Char.toUpper) := by
    unfold upper
    rw [← join_toString, List.map_map]
    refine congrArg String.join (List.map_congr_left fun c hc => ?_)
    obtain ⟨n, hn, rfl⟩ := hdigit c hc
    exact (hexChar_case n hn).2.1
  have h := normalized_around pre post hpre hpost (sign key body).toList Char.toUpper
    fun c hc => by
      obtain ⟨n, hn, rfl⟩ := hdigit c hc
      exact ⟨(hexChar_plain n hn).2.1, (hexChar_plain n hn).2.2.2, (hexChar_case n hn).2.2⟩
  rwa [← hup, String.ofList_toList] at h

/-! ### The verifier -/

variable {body : List UInt8}

theorem mem_ofKeys (current next : Option String) (k : String) :
    k ∈ (Verifier.ofKeys current next).keys ↔ (current = some k ∨ next = some k) ∧ k ≠ "" := by
  rcases current with _ | c <;> rcases next with _ | n <;>
    simp [Verifier.ofKeys, Option.filter] <;> grind

theorem sign_ascii (k : String) : ∀ c ∈ (sign k body).toList, c.toNat ≤ 0x7F := by
  intro c hc
  obtain ⟨n, hn, rfl⟩ := (sign_hex k body).2 c hc
  exact hexChar_ascii n hn

theorem verify_of_no_keys (v : Verifier) (hv : v.keys = []) (sig : Option String) :
    v.verify body sig = .ok false := by
  unfold Verifier.verify
  rcases sig with _ | s
  · rfl
  · simp [hv]

/-- A verifier accepts a signature exactly when it is not empty and, normalized, is the
signature of the body under one of its keys. -/
theorem verify_eq_ok_true_iff (v : Verifier) (sig : Option String) :
    v.verify body sig = .ok true ↔
      ∃ s k, sig = some s ∧ s ≠ "" ∧ k ∈ v.keys ∧ normalized s = sign k body := by
  unfold Verifier.verify
  constructor
  · intro h
    rcases sig with _ | s
    · cases h
    by_cases hs : s.isEmpty <;> by_cases hk : v.keys.isEmpty <;>
      by_cases ha : (normalized s).toList.any (·.toNat > 0x7F) <;> simp [hs, hk, ha] at h
    obtain ⟨k, hk, he⟩ := h
    exact ⟨s, k, rfl, by simpa [String.isEmpty_iff] using hs, hk, he.symm⟩
  · rintro ⟨s, k, rfl, hs, hk, he⟩
    have hne : s.isEmpty = false := by simpa [String.isEmpty_iff] using hs
    have hkeys : v.keys.isEmpty = false := List.isEmpty_eq_false_iff.2 (List.ne_nil_of_mem hk)
    have hascii : (normalized s).toList.any (·.toNat > 0x7F) = false := by
      simpa [he] using fun c hc => Nat.not_lt.2 (sign_ascii k c hc)
    simpa [hne, hkeys, hascii] using ⟨k, hk, he.symm⟩

/-- A verifier fails exactly on a signature that is not empty and, normalized, has a
character outside ASCII, when it holds a key. -/
theorem verify_error_iff (v : Verifier) (sig : Option String) :
    (∃ e, v.verify body sig = .error e) ↔
      v.keys ≠ [] ∧ ∃ s, sig = some s ∧ s ≠ "" ∧ ∃ c ∈ (normalized s).toList, 0x7F < c.toNat := by
  unfold Verifier.verify
  rcases sig with _ | s
  · simp
  by_cases hs : s.isEmpty <;> by_cases hk : v.keys.isEmpty <;>
    by_cases ha : (normalized s).toList.any (·.toNat > 0x7F) <;>
    simp_all [String.isEmpty_iff, List.isEmpty_iff]
  exact ⟨.nonAscii⟩

theorem ne_empty_of_normalized (s k : String) (h : normalized s = sign k body) : s ≠ "" := by
  rintro rfl
  have hlen := congrArg String.length h
  rw [(sign_hex k body).1] at hlen
  exact absurd hlen (by decide)

/-- **What a verifier accepts.** Returning `true` means exactly that the signature is not
empty and, stripped of blanks and in lower case, is the signature of the body under a key
given and not empty. The verifier fails exactly when it holds a key and such a normalized
signature has a character outside ASCII; otherwise it returns. So the signature under
either key is accepted, also in upper case and with blanks around it, and without keys
nothing is accepted. -/
theorem verify_accepts_keys_or_fails_outside_ascii (current next : Option String)
    (body : List UInt8) (signature : Option String) :
    ((Verifier.ofKeys current next).verify body signature = .ok true ↔
      ∃ s k, signature = some s ∧ s ≠ "" ∧ (current = some k ∨ next = some k) ∧ k ≠ "" ∧
        normalized s = sign k body) ∧
    ((∃ e, (Verifier.ofKeys current next).verify body signature = .error e) ↔
      (∃ k, (current = some k ∨ next = some k) ∧ k ≠ "") ∧
        ∃ s, signature = some s ∧ s ≠ "" ∧ ∃ c ∈ (normalized s).toList, 0x7F < c.toNat) ∧
    (∀ k, (current = some k ∨ next = some k) → k ≠ "" →
      ∀ pre post : String, (∀ c ∈ pre.toList, isBlank c) → (∀ c ∈ post.toList, isBlank c) →
        (Verifier.ofKeys current next).verify body (some (pre ++ sign k body ++ post)) =
          .ok true ∧
        (Verifier.ofKeys current next).verify body (some (pre ++ upper (sign k body) ++ post)) =
          .ok true) ∧
    ((∀ k, (current = some k ∨ next = some k) → k = "") →
      ∀ sig, (Verifier.ofKeys current next).verify body sig = .ok false) := by
  have hmem := mem_ofKeys current next
  refine ⟨?_, ?_, ?_, ?_⟩
  · rw [verify_eq_ok_true_iff]
    simp only [hmem, and_assoc]
  · have hkeys : (Verifier.ofKeys current next).keys ≠ [] ↔
        ∃ k, (current = some k ∨ next = some k) ∧ k ≠ "" :=
      ⟨fun h => (List.exists_mem_of_ne_nil _ h).imp fun k hk => (hmem k).1 hk,
        fun ⟨k, hk⟩ => List.ne_nil_of_mem ((hmem k).2 hk)⟩
    rw [verify_error_iff, hkeys]
  · intro k hk hne pre post hpre hpost
    have hkey : k ∈ (Verifier.ofKeys current next).keys := (hmem k).2 ⟨hk, hne⟩
    have hpad := normalized_padded k body pre post hpre hpost
    have hup := normalized_padded_upper k body pre post hpre hpost
    exact ⟨(verify_eq_ok_true_iff _ _).2 ⟨_, k, rfl, ne_empty_of_normalized _ k hpad, hkey, hpad⟩,
      (verify_eq_ok_true_iff _ _).2 ⟨_, k, rfl, ne_empty_of_normalized _ k hup, hkey, hup⟩⟩
  · intro hnone sig
    refine verify_of_no_keys _ (List.eq_nil_iff_forall_not_mem.2 fun k hk => ?_) sig
    obtain ⟨hgiven, hne⟩ := (hmem k).1 hk
    exact hne (hnone k hgiven)

/-- A verifier with a key fails on the signature `é` instead of refusing it. -/
theorem verify_fails_on_accented_signature :
    (Verifier.ofKeys (some "k") none).verify [] (some "é") = .error .nonAscii := by
  decide +kernel

end Uptime.Signing
