import Mathlib.Tactic

/-!
# Text

The string operations a service uses on names, keys and messages, on top of lists of characters, so
that they compute in proofs.
-/

namespace Syfrah.Text

def startsWith (s p : String) : Bool := p.toList.isPrefixOf s.toList

def endsWith (s p : String) : Bool := p.toList.isSuffixOf s.toList

def contains (s p : String) : Bool := s.toList.tails.any fun t => p.toList.isPrefixOf t

/-- The text after a leading part, when it has that leading part. -/
def stripStart (s p : String) : Option String :=
  if startsWith s p then some (String.ofList (s.toList.drop p.toList.length)) else none

/-- The text before a trailing part, when it has that trailing part. -/
def stripEnd (s p : String) : Option String :=
  if endsWith s p then
    some (String.ofList (s.toList.take (s.toList.length - p.toList.length)))
  else none

def splitOnce (c : Char) (s : String) : Option (String × String) :=
  match s.toList.span (· != c) with
  | (_, []) => none
  | (a, _ :: b) => some (String.ofList a, String.ofList b)

def rsplitOnce (c : Char) (s : String) : Option (String × String) :=
  match s.toList.reverse.span (· != c) with
  | (_, []) => none
  | (b, _ :: a) => some (String.ofList a.reverse, String.ofList b.reverse)

/-- The text before the first occurrence of a character, or all of it. -/
def splitHead (c : Char) (s : String) : String := String.ofList (s.toList.takeWhile (· != c))

/-- What stands after the last occurrence of a pattern. -/
def afterLast (p : List Char) : List Char → Option (List Char)
  | [] => none
  | c :: cs =>
    (afterLast p cs).or (if p.isPrefixOf (c :: cs) then some ((c :: cs).drop p.length) else none)

/-- The last part of a text that is split at every occurrence of a pattern. -/
def rsplitLast (p s : String) : String :=
  ((afterLast p.toList s.toList).map String.ofList).getD s

def replaceChar (c d : Char) (s : String) : String :=
  String.ofList (s.toList.map fun x => if x = c then d else x)

/-- Replace every occurrence of a pattern from left to right, after some characters that belong to the
occurrence before. -/
def replaceFrom (p r : List Char) : ℕ → List Char → List Char
  | _, [] => []
  | skip + 1, _ :: cs => replaceFrom p r skip cs
  | 0, c :: cs =>
    if p.isPrefixOf (c :: cs) then r ++ replaceFrom p r (p.length - 1) cs
    else c :: replaceFrom p r 0 cs

def replace (p r s : String) : String := String.ofList (replaceFrom p.toList r.toList 0 s.toList)

def replaceFirstFrom (p r : List Char) : List Char → List Char
  | [] => []
  | c :: cs =>
    if p.isPrefixOf (c :: cs) then r ++ (c :: cs).drop p.length else c :: replaceFirstFrom p r cs

def replaceFirst (p r s : String) : String :=
  String.ofList (replaceFirstFrom p.toList r.toList s.toList)

/-- The part between the first and the second occurrence of a character, or after the only one. -/
def secondPart (c : Char) (s : String) : Option String :=
  (splitOnce c s).map fun parts => splitHead c parts.2

/-- Equality of texts up to the case of ASCII letters. -/
def eqIgnoreAsciiCase (s t : String) : Bool :=
  s.toList.map Char.toLower == t.toList.map Char.toLower

def trim (s : String) : String :=
  String.ofList (((s.toList.dropWhile Char.isWhitespace).reverse.dropWhile Char.isWhitespace).reverse)

/-- Lower-case hexadecimal digits of a number, with zeros in front up to a width. -/
def hexPad (width n : ℕ) : String := String.ofList ((Nat.toDigits 16 n).leftpad width '0')

def quote : Char := Char.ofNat 34

/-- A text as a debugging print shows it: in quotes, with the usual characters escaped. -/
def debug (s : String) : String :=
  let quote := Char.ofNat 34
  let backslash := Char.ofNat 92
  String.ofList (quote :: (s.toList.flatMap fun c =>
    if c = quote then [backslash, quote]
    else if c = backslash then [backslash, backslash]
    else if c = '\n' then [backslash, 'n']
    else if c = '\r' then [backslash, 'r']
    else if c = '\t' then [backslash, 't']
    else if c = Char.ofNat 0 then [backslash, '0']
    else [c]) ++ [quote])

/-- A decimal number below a bound, as a parser of unsigned integers reads it: an optional plus
sign and then digits only. -/
def parseUnsigned (bound : ℕ) (s : String) : Option ℕ :=
  let digits := match s.toList with
    | '+' :: cs => cs
    | cs => cs
  if digits.isEmpty || !digits.all Char.isDigit then none
  else
    let n := digits.foldl (fun n c => n * 10 + (c.toNat - '0'.toNat)) 0
    if n < bound then some n else none

theorem contains_iff_infix {s p : String} : contains s p = true ↔ p.toList <:+: s.toList := by
  simp only [contains, List.any_eq_true, List.mem_tails, List.isPrefixOf_iff_prefix,
    List.infix_iff_prefix_suffix]
  constructor
  · rintro ⟨t, hsuffix, hstart⟩
    exact ⟨t, hstart, hsuffix⟩
  · rintro ⟨t, hstart, hsuffix⟩
    exact ⟨t, hsuffix, hstart⟩

theorem startsWith_iff {s p : String} : startsWith s p = true ↔ p.toList <+: s.toList :=
  List.isPrefixOf_iff_prefix

theorem startsWith_append (p rest : String) : startsWith (p ++ rest) p = true := by
  rw [startsWith_iff, String.toList_append]
  exact List.prefix_append _ _

theorem not_startsWith_of_startsWith {s p q : String} (hp : startsWith s p = true)
    (hlength : p.toList.length = q.toList.length) (hne : p ≠ q) : startsWith s q = false := by
  rw [← Bool.not_eq_true]
  intro hq
  rw [startsWith_iff] at hp hq
  have hinitial := List.prefix_of_prefix_length_le hp hq hlength.le
  exact hne (String.toList_inj.mp (hinitial.eq_of_length hlength))

theorem lt_of_parseUnsigned {bound n : ℕ} {s : String} (h : parseUnsigned bound s = some n) :
    n < bound := by
  unfold parseUnsigned at h
  obtain ⟨-, hread⟩ := Option.ite_none_left_eq_some.mp h
  obtain ⟨hlt, hn⟩ := Option.ite_none_right_eq_some.mp hread
  exact Option.some.inj hn ▸ hlt

theorem stripStart_append (p s : String) : stripStart (p ++ s) p = some s := by
  have hstarts : startsWith (p ++ s) p = true := by
    rw [startsWith, String.toList_append, List.isPrefixOf_iff_prefix]
    exact List.prefix_append _ _
  rw [stripStart, if_pos hstarts, String.toList_append, List.drop_left, String.ofList_toList]

theorem append_separator_eq_iff {c : Char} {a b x y : List Char} :
    a ++ c :: x = b ++ c :: y ↔
      (a = b ∧ x = y) ∨ (∃ w, b = a ++ c :: w ∧ x = w ++ c :: y) ∨
        ∃ w, a = b ++ c :: w ∧ y = w ++ c :: x := by
  constructor
  · intro h
    rcases List.append_eq_append_iff.mp h with ⟨d, hb, hd⟩ | ⟨d, ha, hd⟩
    · cases d with
      | nil => exact .inl (by simp_all)
      | cons e w =>
          obtain ⟨rfl, hx⟩ := List.cons.inj hd
          exact .inr (.inl ⟨w, hb, hx⟩)
    · cases d with
      | nil => exact .inl (by simp_all)
      | cons e w =>
          obtain ⟨rfl, hy⟩ := List.cons.inj hd
          exact .inr (.inr ⟨w, ha, hy⟩)
  · rintro (⟨rfl, rfl⟩ | ⟨w, rfl, rfl⟩ | ⟨w, rfl, rfl⟩) <;> simp

theorem append_separator_inj {c : Char} {a b x y : List Char} (hx : c ∉ x) (hy : c ∉ y)
    (h : a ++ c :: x = b ++ c :: y) : a = b ∧ x = y := by
  rcases append_separator_eq_iff.mp h with hparts | ⟨w, -, rfl⟩ | ⟨w, -, rfl⟩
  · exact hparts
  · exact absurd (by simp) hx
  · exact absurd (by simp) hy

theorem eq_of_suffix_separator {c : Char} {a x y : List Char} (ha : c ∉ a) (hx : c ∉ x)
    (h : c :: y <:+ a ++ c :: x) : x = y := by
  obtain ⟨b, hb⟩ := h
  rcases append_separator_eq_iff.mp hb with ⟨-, hparts⟩ | ⟨w, rfl, -⟩ | ⟨w, -, rfl⟩
  · exact hparts.symm
  · exact absurd (by simp) ha
  · exact absurd (by simp) hx

theorem infix_separator_iff {c : Char} {a b q r : List Char} (ha : c ∉ a) (hb : c ∉ b) :
    q ++ c :: r <:+: a ++ c :: b ↔ q <:+ a ∧ r <+: b := by
  constructor
  · rintro ⟨s, t, h⟩
    have hsplit : (s ++ q) ++ c :: (r ++ t) = a ++ c :: b := by simpa using h
    rcases append_separator_eq_iff.mp hsplit with ⟨rfl, rfl⟩ | ⟨w, rfl, -⟩ | ⟨w, -, rfl⟩
    · exact ⟨List.suffix_append s q, List.prefix_append r t⟩
    · exact absurd (by simp) ha
    · exact absurd (by simp) hb
  · rintro ⟨⟨s, rfl⟩, ⟨t, rfl⟩⟩
    exact ⟨s, t, by simp⟩

theorem prefix_before_iff {c : Char} {w v z : List Char} (hw : c ∉ w) :
    w <+: v ++ c :: z ↔ w <+: v := by
  constructor
  · rintro ⟨t, h⟩
    rcases List.append_eq_append_iff.mp h with ⟨d, rfl, -⟩ | ⟨d, rfl, hd⟩
    · exact List.prefix_append w d
    · cases d with
      | nil => simp
      | cons e es =>
          obtain ⟨rfl, -⟩ := List.cons.inj hd
          exact absurd (by simp) hw
  · exact fun h => h.trans (List.prefix_append v (c :: z))

theorem replaceFrom_eq_self {c : Char} {p r s : List Char} (h : c ∉ s) :
    replaceFrom (c :: p) r 0 s = s := by
  induction s with
  | nil => rfl
  | cons d s ih =>
      rw [List.mem_cons, not_or] at h
      simp [replaceFrom, List.isPrefixOf, h.1, ih h.2]

theorem replaceFrom_skip (p r q s : List Char) :
    replaceFrom p r q.length (q ++ s) = replaceFrom p r 0 s := by
  induction q with
  | nil => rfl
  | cons c q ih => exact ih

theorem replaceFrom_append {c : Char} {p r s : List Char} (h : c ∉ s) :
    replaceFrom (c :: p) r 0 (c :: p ++ s) = r ++ s := by
  have hstarts : (c :: p).isPrefixOf (c :: (p ++ s)) = true :=
    List.isPrefixOf_iff_prefix.mpr (List.prefix_append (c :: p) s)
  rw [List.cons_append, replaceFrom, if_pos hstarts, List.length_cons, Nat.add_sub_cancel,
    replaceFrom_skip, replaceFrom_eq_self h]

theorem afterLast_eq_none {c : Char} {p s : List Char} (h : c ∉ s) : afterLast (c :: p) s = none := by
  induction s with
  | nil => rfl
  | cons d s ih =>
      rw [List.mem_cons, not_or] at h
      simp [afterLast, ih h.2, List.isPrefixOf, h.1]

theorem afterLast_append {c : Char} {p a x : List Char} (h : c ∉ p ++ x) :
    afterLast (c :: p) (a ++ (c :: p ++ x)) = some x := by
  induction a with
  | nil =>
      have hstarts : (c :: p).isPrefixOf (c :: (p ++ x)) = true :=
        List.isPrefixOf_iff_prefix.mpr (List.prefix_append (c :: p) x)
      rw [List.nil_append, List.cons_append, afterLast, afterLast_eq_none h, hstarts]
      simp
  | cons d a ih =>
      rw [List.cons_append, afterLast, ih]
      rfl

/-! ### Numbers -/

theorem notMem_toDigits {c : Char} (hc : c.isDigit = false) (n : ℕ) : c ∉ Nat.toDigits 10 n := by
  intro hmem
  have hdigit := Nat.isDigit_of_mem_toDigits (by omega) (by omega) hmem
  simp [hc] at hdigit

theorem exists_digitChar_of_mem_toDigits {b n : ℕ} {c : Char} (hb : 1 < b) (hmem : c ∈ Nat.toDigits b n) :
    ∃ d < b, c = d.digitChar := by
  induction n using Nat.strong_induction_on with
  | _ n ih =>
      rcases Nat.lt_or_ge n b with hlt | hle
      · rw [Nat.toDigits_of_lt_base hlt, List.mem_singleton] at hmem
        exact ⟨n, hlt, hmem⟩
      · rw [Nat.toDigits_of_base_le hb hle, List.mem_append, List.mem_singleton] at hmem
        rcases hmem with hmem | rfl
        · exact ih (n / b) (Nat.div_lt_self (by omega) hb) hmem
        · exact ⟨n % b, Nat.mod_lt n (by omega), rfl⟩

theorem notMem_hexPad {c : Char} (hc : ∀ d < 16, c ≠ d.digitChar) (width n : ℕ) :
    c ∉ (hexPad width n).toList := by
  rw [hexPad, String.toList_ofList, List.leftpad, List.mem_append, not_or]
  constructor
  · intro hmem
    exact hc 0 (by omega) (List.eq_of_mem_replicate hmem)
  · intro hmem
    obtain ⟨d, hd, heq⟩ := exists_digitChar_of_mem_toDigits (by omega) hmem
    exact hc d hd heq

theorem toList_toString (n : ℕ) : (toString n).toList = Nat.toDigits 10 n := by
  rw [Nat.toString_eq_ofList_toDigits, String.toList_ofList]

theorem parseUnsigned_of_digits {bound n : ℕ} {s : String} (hdigits : ∀ c ∈ s.toList, c.isDigit = true)
    (hne : s.toList ≠ []) (hvalue : s.toList.foldl (fun n c => n * 10 + (c.toNat - '0'.toNat)) 0 = n)
    (h : n < bound) : parseUnsigned bound s = some n := by
  have hsign : (match s.toList with | '+' :: cs => cs | cs => cs) = s.toList := by
    split
    · rename_i hplus
      exact absurd (hdigits '+' (by simp [hplus])) (by decide)
    · rfl
  unfold parseUnsigned
  rw [hsign]
  dsimp only
  rw [hvalue, if_neg (by simpa [hne] using hdigits), if_pos h]

theorem foldl_toDigits (n : ℕ) : (Nat.toDigits 10 n).foldl (fun n c => n * 10 + (c.toNat - '0'.toNat)) 0 = n := by
  have hread := Nat.ofDigitChars_ten_toDigits (n := n)
  simpa only [Nat.ofDigitChars, Nat.mul_comm 10] using hread

theorem parseUnsigned_toString {bound n : ℕ} (h : n < bound) :
    parseUnsigned bound (toString n) = some n := by
  have hlist := toList_toString n
  refine parseUnsigned_of_digits ?_ ?_ ?_ h
  · rw [hlist]
    exact fun c hc => Nat.isDigit_of_mem_toDigits (by omega) (by omega) hc
  · rw [hlist]
    exact Nat.toDigits_ne_nil
  · rw [hlist]
    exact foldl_toDigits n

theorem trim_eq_self {s : String} (h : ∀ c ∈ s.toList, c.isWhitespace = false) : trim s = s := by
  have hdrop : ∀ cs : List Char, (∀ c ∈ cs, c.isWhitespace = false) →
      cs.dropWhile Char.isWhitespace = cs := by
    intro cs hcs
    cases cs with
    | nil => rfl
    | cons c cs => rw [List.dropWhile_cons_of_neg (by simp [hcs c])]
  rw [trim, hdrop _ h, hdrop _ (fun c hc => h c (List.mem_reverse.mp hc)), List.reverse_reverse,
    String.ofList_toList]

theorem trim_toString (n : ℕ) : trim (toString n) = toString n := by
  refine trim_eq_self fun c hc => ?_
  rw [toList_toString] at hc
  have hdigit := Nat.isDigit_of_mem_toDigits (by omega) (by omega) hc
  rw [Bool.eq_false_iff]
  intro hspace
  simp only [Char.isWhitespace, Bool.or_eq_true, decide_eq_true_eq] at hspace
  rcases hspace with ((rfl | rfl) | rfl) | rfl <;> exact absurd hdigit (by decide)

theorem toList_of_splitOnce {c : Char} {s : String} {parts : String × String}
    (h : splitOnce c s = some parts) : s.toList = parts.1.toList ++ c :: parts.2.toList := by
  unfold splitOnce at h
  rw [List.span_eq_takeWhile_dropWhile] at h
  have hsplit := List.takeWhile_append_dropWhile (p := (· != c)) (l := s.toList)
  cases hrest : s.toList.dropWhile (· != c) with
  | nil =>
      rw [hrest] at h
      cases h
  | cons d rest =>
      have hd : d = c := by
        have hnot := List.head?_dropWhile_not (· != c) s.toList
        rw [hrest] at hnot
        simpa using hnot
      rw [hrest] at h hsplit
      cases h
      calc s.toList = s.toList.takeWhile (· != c) ++ d :: rest := hsplit.symm
        _ = _ := by simp [hd]

theorem splitOnce_of_toList {c : Char} {s a b : String} (hs : s.toList = a.toList ++ c :: b.toList)
    (ha : c ∉ a.toList) : splitOnce c s = some (a, b) := by
  have hne : ∀ d ∈ a.toList, (d != c) = true := fun d hd => by
    simpa using fun h : d = c => ha (h ▸ hd)
  unfold splitOnce
  rw [List.span_eq_takeWhile_dropWhile, hs, List.takeWhile_append_of_pos hne,
    List.dropWhile_append_of_pos hne]
  simp

theorem rsplitOnce_eq (c : Char) (s : String) : rsplitOnce c s =
    (splitOnce c (String.ofList s.toList.reverse)).map fun p =>
      (String.ofList p.2.toList.reverse, String.ofList p.1.toList.reverse) := by
  rw [rsplitOnce, splitOnce, String.toList_ofList]
  rcases s.toList.reverse.span (· != c) with ⟨last, _ | ⟨d, first⟩⟩
  · rfl
  · simp

theorem rsplitOnce_of_toList {c : Char} {s a b : String} (hs : s.toList = a.toList ++ c :: b.toList)
    (hb : c ∉ b.toList) :
    rsplitOnce c s = some (a, b) := by
  have hrev : (String.ofList s.toList.reverse).toList =
      (String.ofList b.toList.reverse).toList ++ c :: (String.ofList a.toList.reverse).toList := by
    simp [hs]
  rw [rsplitOnce_eq, splitOnce_of_toList hrev (by simpa using hb)]
  simp

end Syfrah.Text
