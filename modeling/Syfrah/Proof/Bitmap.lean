import Syfrah.Org.Ipam

/-!
# The bitmap of a subnet

Setting and clearing a bit changes that offset alone, and an allocation takes a clear offset among the
ones that are not reserved.
-/

namespace Syfrah

namespace SubnetBitmap

variable {bits : List (BitVec 8)} {bitmap bitmap' : SubnetBitmap} {offset : ℕ}

theorem shift_mask_eq_getLsbD : ∀ (byte : BitVec 8) (i : Fin 8),
    ((byte >>> i.val) &&& 1 == 1) = byte.getLsbD i.val := by
  decide +kernel

theorem isSet_eq (bits : List (BitVec 8)) (offset : ℕ) :
    isSet bits offset = (bits[offset / 8]?).any fun byte => byte.getLsbD (offset % 8) := by
  unfold isSet
  cases bits[offset / 8]? with
  | none => rfl
  | some byte => exact shift_mask_eq_getLsbD byte ⟨offset % 8, Nat.mod_lt _ (by decide)⟩

theorem length_setBit (bits : List (BitVec 8)) (offset : ℕ) :
    (setBit bits offset).length = bits.length := List.length_modify _ _ _

theorem length_clearBit (bits : List (BitVec 8)) (offset : ℕ) :
    (clearBit bits offset).length = bits.length := List.length_modify _ _ _

theorem isSet_modify {f : BitVec 8 → BitVec 8} {value : Bool}
    (hf : ∀ byte i, i < 8 → (f byte).getLsbD i = if i = offset % 8 then value else byte.getLsbD i)
    (hlength : offset / 8 < bits.length) (other : ℕ) :
    isSet (bits.modify (offset / 8) f) other = if other = offset then value else isSet bits other := by
  rw [isSet_eq, isSet_eq, List.getElem?_modify]
  by_cases hbyte : offset / 8 = other / 8
  · obtain ⟨byte, hget⟩ : ∃ byte, bits[other / 8]? = some byte :=
      ⟨_, List.getElem?_eq_getElem (hbyte ▸ hlength)⟩
    have hsame : other % 8 = offset % 8 ↔ other = offset := by omega
    simp [hbyte, hget, hf byte (other % 8) (Nat.mod_lt _ (by decide)), hsame]
  · have hne : other ≠ offset := by
      rintro rfl
      exact hbyte rfl
    simp [hbyte, hne]

theorem isSet_setBit (hlength : offset / 8 < bits.length) (other : ℕ) :
    isSet (setBit bits offset) other = if other = offset then true else isSet bits other := by
  refine isSet_modify (fun byte i hi => ?_) hlength other
  by_cases hbit : i = offset % 8
  · subst hbit
    simp [hi]
  · simp [hi, hbit]
    omega

theorem isSet_clearBit (hlength : offset / 8 < bits.length) (other : ℕ) :
    isSet (clearBit bits offset) other = if other = offset then false else isSet bits other := by
  refine isSet_modify (fun byte i hi => ?_) hlength other
  by_cases hbit : i = offset % 8
  · subst hbit
    simp [hi]
  · simp [hi, hbit]
    omega

theorem clear_set_byte : ∀ (byte : BitVec 8) (i : Fin 8), byte.getLsbD i.val = false →
    (byte ||| ((1 : BitVec 8) <<< i.val)) &&& ~~~((1 : BitVec 8) <<< i.val) = byte := by
  decide +kernel

theorem clearBit_setBit (hclear : isSet bits offset = false) : clearBit (setBit bits offset) offset = bits := by
  rw [isSet_eq] at hclear
  rw [clearBit, setBit, List.modify_modify_eq]
  refine List.ext_getElem? fun i => ?_
  rw [List.getElem?_modify]
  by_cases hbyte : offset / 8 = i
  · subst hbyte
    cases hget : bits[offset / 8]? with
    | none => rfl
    | some byte =>
        rw [hget] at hclear
        simp only [if_true, Option.map_eq_map, Option.map_some, Function.comp_apply]
        exact congrArg some (clear_set_byte byte ⟨offset % 8, Nat.mod_lt _ (by decide)⟩ hclear)
  · simp [hbyte]

theorem firstClear_spec {count : ℕ} {found : ℕ} (h : firstClear bits offset count = some found) :
    offset ≤ found ∧ found < offset + count ∧ isSet bits found = false ∧
      ∀ other, offset ≤ other → other < found → isSet bits other = true := by
  induction count generalizing offset with
  | zero => cases h
  | succ count ih =>
      unfold firstClear at h
      split at h
      · rename_i hset
        obtain ⟨hle, hlt, hclear, hbelow⟩ := ih h
        refine ⟨by omega, by omega, hclear, fun other hother hfound => ?_⟩
        rcases Nat.eq_or_lt_of_le hother with rfl | hlt
        · exact hset
        · exact hbelow other hlt hfound
      · rename_i hclear
        cases h
        exact ⟨le_rfl, by omega, by simpa using hclear, fun other _ _ => by omega⟩

theorem isSet_of_firstClear_eq_none {count : ℕ} (h : firstClear bits offset count = none) :
    ∀ other, offset ≤ other → other < offset + count → isSet bits other = true := by
  induction count generalizing offset with
  | zero =>
      intro other hle hlt
      omega
  | succ count ih =>
      intro other hle hlt
      unfold firstClear at h
      split at h
      · rename_i hset
        rcases Nat.eq_or_lt_of_le hle with rfl | hlt'
        · exact hset
        · exact ih h other hlt' (by omega)
      · cases h

def Sized (bitmap : SubnetBitmap) : Prop := bitmap.bits.length = bitmapBytes

theorem sized_new : new.Sized := rfl

structure Free (bitmap : SubnetBitmap) (offset : ℕ) : Prop where
  first : firstAllocatable ≤ offset
  last : offset ≤ lastAllocatable
  clear : isSet bitmap.bits offset = false

/-- **An allocation** takes the lowest free offset, whatever the size of the subnet. -/
theorem allocate_lowest (h : bitmap.allocate = some (offset, bitmap')) :
    bitmap.Free offset ∧ ∀ other, bitmap.Free other → offset ≤ other := by
  unfold allocate at h
  obtain ⟨found, hfound, heq⟩ := Option.map_eq_some_iff.mp h
  cases heq
  obtain ⟨hfirst, hlast, hclear, hbelow⟩ := firstClear_spec hfound
  refine ⟨⟨hfirst, ?_, hclear⟩, fun other hother => ?_⟩
  · simp only [firstAllocatable, lastAllocatable] at hlast ⊢
    omega
  · by_contra hlt
    have hset := hbelow other hother.first (by omega)
    rw [hother.clear] at hset
    cases hset

/-- An allocation fails when no offset is free. -/
theorem allocate_eq_none_iff : bitmap.allocate = none ↔ ∀ offset, ¬ bitmap.Free offset := by
  constructor
  · intro h other hfree
    have hset := isSet_of_firstClear_eq_none (Option.map_eq_none_iff.mp h) other hfree.first <| by
      have hlast := hfree.last
      simp only [firstAllocatable, lastAllocatable] at hlast ⊢
      omega
    rw [hfree.clear] at hset
    cases hset
  · intro h
    cases halloc : bitmap.allocate with
    | none => rfl
    | some p => exact absurd (allocate_lowest halloc).1 (h p.1)

theorem isSet_allocate (hsized : bitmap.Sized) (h : bitmap.allocate = some (offset, bitmap')) :
    bitmap'.Sized ∧
      ∀ other, isSet bitmap'.bits other = if other = offset then true else isSet bitmap.bits other := by
  have hlast := (allocate_lowest h).1.last
  obtain ⟨found, -, heq⟩ := Option.map_eq_some_iff.mp h
  cases heq
  refine ⟨(length_setBit _ _).trans hsized, isSet_setBit ?_⟩
  rw [hsized]
  simp only [bitmapBytes, subnetSize, lastAllocatable] at hlast ⊢
  omega

theorem not_reserved (hfirst : firstAllocatable ≤ offset) (hlast : offset ≤ lastAllocatable) :
    reservedOffsets.contains offset = false := by
  simp only [firstAllocatable, lastAllocatable] at hfirst hlast
  rw [List.contains_eq_mem, decide_eq_false_iff_not, reservedOffsets]
  simp only [List.mem_cons, List.not_mem_nil, or_false]
  omega

theorem release_allocate (h : bitmap.allocate = some (offset, bitmap')) : bitmap'.release offset = bitmap := by
  obtain ⟨hfirst, hlast, hclear⟩ := (allocate_lowest h).1
  obtain ⟨found, -, heq⟩ := Option.map_eq_some_iff.mp h
  cases heq
  rw [release, not_reserved hfirst hlast, if_neg Bool.false_ne_true, clearBit_setBit hclear]

theorem release_first_address :
    ∃ bitmap', SubnetBitmap.new.allocate = some (firstAllocatable, bitmap') ∧
      bitmap'.release firstAllocatable = .new :=
  ⟨_, rfl, release_allocate rfl⟩

theorem isSet_release_self (hsized : bitmap.Sized) (hfirst : firstAllocatable ≤ offset)
    (hlast : offset ≤ lastAllocatable) : isSet (bitmap.release offset).bits offset = false := by
  rw [release, not_reserved hfirst hlast, if_neg Bool.false_ne_true, isSet_clearBit, if_pos rfl]
  rw [hsized]
  simp only [bitmapBytes, subnetSize, lastAllocatable] at hlast ⊢
  omega

theorem isSet_release (hsized : bitmap.Sized) (hoffset : offset ≤ lastAllocatable) :
    (bitmap.release offset).Sized ∧
      ∀ other, other ≠ offset →
        isSet (bitmap.release offset).bits other = isSet bitmap.bits other := by
  unfold release
  split
  · exact ⟨hsized, fun _ _ => rfl⟩
  · refine ⟨(length_clearBit _ _).trans hsized, fun other hne => ?_⟩
    rw [isSet_clearBit, if_neg hne]
    rw [hsized]
    simp only [bitmapBytes, subnetSize, lastAllocatable] at hoffset ⊢
    omega

end SubnetBitmap

end Syfrah
