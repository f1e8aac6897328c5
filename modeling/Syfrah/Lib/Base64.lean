import Mathlib.Tactic

/-!
# Base64

Decoding of base64 with padding, as strict decoders do it: groups of four characters, padding only at
the end, and no stray bits before it. So a text is determined by what it decodes to, and the number of
padding characters by the lengths.
-/

namespace Base64

def alphabet : List Char :=
  "ABCDEFGHIJKLMNOPQRSTUVWXYZabcdefghijklmnopqrstuvwxyz0123456789+/".toList

def value (c : Char) : Option ℕ := if c ∈ alphabet then some (alphabet.idxOf c) else none

def bytes (x y z w : ℕ) : List ℕ := [x * 4 + y / 16, y % 16 * 16 + z / 4, z % 4 * 64 + w]

/-- Decode groups of four characters; only the last one may be padded. -/
def decodeGroups : List Char → Option (List ℕ)
  | [] => some []
  | [a, b, '=', '='] =>
    (value a).bind fun x => (value b).bind fun y =>
      if y % 16 = 0 then some ((bytes x y 0 0).take 1) else none
  | [a, b, c, '='] =>
    (value a).bind fun x => (value b).bind fun y => (value c).bind fun z =>
      if z % 4 = 0 then some ((bytes x y z 0).take 2) else none
  | a :: b :: c :: d :: rest =>
    (value a).bind fun x => (value b).bind fun y => (value c).bind fun z => (value d).bind fun w =>
      (decodeGroups rest).map fun tail => bytes x y z w ++ tail
  | _ => none

def decode (s : String) : Option (List ℕ) := decodeGroups s.toList

variable {c c' : Char} {x : ℕ}

theorem getElem?_of_value (h : value c = some x) : alphabet[x]? = some c := by
  obtain ⟨hmem, hidx⟩ := Option.ite_none_right_eq_some.mp h
  cases hidx
  exact List.getElem?_idxOf hmem

theorem value_lt (h : value c = some x) : x < 64 := by
  have hlength : alphabet.length = 64 := by decide
  exact hlength ▸ (List.getElem?_eq_some_iff.mp (getElem?_of_value h)).1

theorem value_inj (h : value c = some x) (h' : value c' = some x) : c = c' :=
  Option.some.inj ((getElem?_of_value h).symm.trans (getElem?_of_value h'))

theorem ne_pad_of_value (h : value c = some x) : c ≠ '=' := by
  rintro rfl
  exact absurd (List.mem_of_getElem? (getElem?_of_value h)) (by decide)

inductive Decodes : List Char → List ℕ → Prop
  | nil : Decodes [] []
  | one {a b : Char} {x y : ℕ} : value a = some x → value b = some y → y % 16 = 0 →
      Decodes [a, b, '=', '='] [x * 4 + y / 16]
  | two {a b c : Char} {x y z : ℕ} : value a = some x → value b = some y → value c = some z →
      z % 4 = 0 → Decodes [a, b, c, '='] [x * 4 + y / 16, y % 16 * 16 + z / 4]
  | three {a b c d : Char} {x y z w : ℕ} {rest : List Char} {tail : List ℕ} : value a = some x →
      value b = some y → value c = some z → value d = some w → Decodes rest tail →
      Decodes (a :: b :: c :: d :: rest) (bytes x y z w ++ tail)

theorem decodes_of_decodeGroups {cs : List Char} {bs : List ℕ} (h : decodeGroups cs = some bs) :
    Decodes cs bs := by
  fun_induction decodeGroups cs generalizing bs with
  | case1 =>
      cases h
      exact .nil
  | case2 a b =>
      obtain ⟨x, hx, h⟩ := Option.bind_eq_some_iff.mp h
      obtain ⟨y, hy, h⟩ := Option.bind_eq_some_iff.mp h
      obtain ⟨hbits, hbs⟩ := Option.ite_none_right_eq_some.mp h
      cases hbs
      exact .one hx hy hbits
  | case3 a b c hc =>
      obtain ⟨x, hx, h⟩ := Option.bind_eq_some_iff.mp h
      obtain ⟨y, hy, h⟩ := Option.bind_eq_some_iff.mp h
      obtain ⟨z, hz, h⟩ := Option.bind_eq_some_iff.mp h
      obtain ⟨hbits, hbs⟩ := Option.ite_none_right_eq_some.mp h
      cases hbs
      exact .two hx hy hz hbits
  | case4 a b c d rest _ _ ih =>
      obtain ⟨x, hx, h⟩ := Option.bind_eq_some_iff.mp h
      obtain ⟨y, hy, h⟩ := Option.bind_eq_some_iff.mp h
      obtain ⟨z, hz, h⟩ := Option.bind_eq_some_iff.mp h
      obtain ⟨w, hw, h⟩ := Option.bind_eq_some_iff.mp h
      obtain ⟨tail, htail, rfl⟩ := Option.map_eq_some_iff.mp h
      exact .three hx hy hz hw (ih htail)
  | case5 => cases h

/-- **Padding**: a decodable text is free of padding but for its end, and the padding makes up for the
bytes that are missing in the last group. -/
theorem Decodes.padding {cs : List Char} {bs : List ℕ} (h : Decodes cs bs) :
    ∃ body k, cs = body ++ List.replicate k '=' ∧ '=' ∉ body ∧ k < 3 ∧
      4 * (bs.length + k) = 3 * cs.length := by
  induction h with
  | nil => exact ⟨[], 0, rfl, by simp, by decide, rfl⟩
  | @one a b x y hx hy _ =>
      refine ⟨[a, b], 2, rfl, ?_, by decide, rfl⟩
      simp [(ne_pad_of_value hx).symm, (ne_pad_of_value hy).symm]
  | @two a b c x y z hx hy hz _ =>
      refine ⟨[a, b, c], 1, rfl, ?_, by decide, rfl⟩
      simp [(ne_pad_of_value hx).symm, (ne_pad_of_value hy).symm, (ne_pad_of_value hz).symm]
  | @three a b c d x y z w rest tail hx hy hz hw _ ih =>
      obtain ⟨body, k, rfl, hbody, hk, hlength⟩ := ih
      refine ⟨a :: b :: c :: d :: body, k, rfl, ?_, hk, ?_⟩
      · simp [(ne_pad_of_value hx).symm, (ne_pad_of_value hy).symm, (ne_pad_of_value hz).symm,
          (ne_pad_of_value hw).symm, hbody]
      · simp only [bytes, List.length_append, List.length_cons, List.length_nil] at hlength ⊢
        omega

theorem eq_of_bytes {a a' b b' : Char} {x x' y y' : ℕ} (hx : value a = some x)
    (hx' : value a' = some x') (hy : value b = some y) (hy' : value b' = some y')
    (hfirst : x * 4 + y / 16 = x' * 4 + y' / 16) (hsecond : y % 16 = y' % 16) : a = a' ∧ b = b' := by
  have hlt := value_lt hy
  have hlt' := value_lt hy'
  obtain rfl : x = x' := by omega
  obtain rfl : y = y' := by omega
  exact ⟨value_inj hx hx', value_inj hy hy'⟩

theorem Decodes.eq_of_eq {cs cs' : List Char} {bs bs' : List ℕ} (h : Decodes cs bs)
    (h' : Decodes cs' bs') (heq : bs = bs') : cs = cs' := by
  induction h generalizing cs' bs' with
  | nil =>
      cases h' with
      | nil => rfl
      | one | two | three => simp [bytes] at heq
  | one hx hy hbits =>
      cases h' with
      | one hx' hy' hbits' =>
          obtain ⟨rfl, rfl⟩ := eq_of_bytes hx hx' hy hy' (List.cons.inj heq).1 (by omega)
          rfl
      | nil | two | three => simp [bytes] at heq
  | two hx hy hz hbits =>
      cases h' with
      | two hx' hy' hz' hbits' =>
          simp only [List.cons.injEq, and_true] at heq
          have hltz := value_lt hz
          have hltz' := value_lt hz'
          obtain ⟨rfl, rfl⟩ := eq_of_bytes hx hx' hy hy' heq.1 (by omega)
          cases hy.symm.trans hy'
          obtain rfl := value_inj hz (hz'.trans (by congr 1; omega))
          rfl
      | nil | one | three => simp [bytes] at heq
  | three hx hy hz hw _ ih =>
      cases h' with
      | three hx' hy' hz' hw' htail' =>
          simp only [bytes, List.cons_append, List.nil_append, List.cons.injEq] at heq
          have hltz := value_lt hz
          have hltz' := value_lt hz'
          have hltw := value_lt hw
          have hltw' := value_lt hw'
          obtain ⟨rfl, rfl⟩ := eq_of_bytes hx hx' hy hy' heq.1 (by omega)
          cases hy.symm.trans hy'
          obtain rfl := value_inj hz (hz'.trans (by congr 1; omega))
          obtain rfl := value_inj hw (hw'.trans (by congr 1; omega))
          rw [ih htail' heq.2.2.2]
      | nil | one | two => simp [bytes] at heq

theorem decode_inj {s s' : String} {bs : List ℕ} (h : decode s = some bs) (h' : decode s' = some bs) :
    s = s' :=
  String.toList_inj.mp ((decodes_of_decodeGroups h).eq_of_eq (decodes_of_decodeGroups h') rfl)

end Base64
