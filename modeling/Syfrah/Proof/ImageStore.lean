import Syfrah.Compute.ImageStore
import Syfrah.Lib.Run

/-!
# Pulled images are there

One record stands for both variants of an image, and it has the checksum of the raw image even when only
the archive was pulled. The record is trusted as long as archives are pulled only next to a raw image,
and deletions are not cut short; and a deletion leaves nothing as long as there is no archive, since it
does not look for one.
-/

namespace Syfrah

namespace Compute

namespace ImageStore

variable {Content : Type} {digest : Content → String} {catalog : Table CatalogEntry} {s : ImageStore Content}
  {name : String} {entry : CatalogEntry} {content : Content}

/-- Files come from the catalog, and every record has its raw image. -/
structure Sound (digest : Content → String) (catalog : Table CatalogEntry) (s : ImageStore Content) : Prop where
  others : s.others = []
  raw : ∀ (name : String) c, s.raw[name]? = some c → ∃ entry, catalog[name]? = some entry ∧ digest c = entry.sha256
  oci : ∀ (name : String) c, s.oci[name]? = some c →
    ∃ entry, catalog[name]? = some entry ∧ entry.containerSha256 = some (digest c)
  recorded : ∀ images, s.metadata = some images → ∀ m ∈ images, m.name ∈ s.raw

theorem sound_empty : Sound digest catalog (empty : ImageStore Content) :=
  ⟨rfl, fun _ _ h => by simp [empty] at h, fun _ _ h => by simp [empty] at h, fun _ h => by simp [empty] at h⟩

/-- What a call promises when it succeeds. -/
def Delivers (digest : Content → String) (catalog : Table CatalogEntry) (s : ImageStore Content) :
    Call Content → Prop
  | .pull name .vm _ => ∃ entry c, catalog[name]? = some entry ∧ s.raw[name]? = some c ∧ digest c = entry.sha256
  | .pull name .container _ => ∀ entry sha, catalog[name]? = some entry → entry.containerSha256 = some sha →
      ∃ c, s.oci[name]? = some c ∧ digest c = sha
  | .delete name _ => s.raw[name]? = none ∧ s.oci[name]? = none

/-- The calls that leave the records right: an archive is pulled next to a raw image, and an image is
deleted that has no archive, without a crash between its two files. -/
def Orderly (catalog : Table CatalogEntry) (s : ImageStore Content) : Call Content × Option ℕ → Prop
  | (.pull name .container _, _) => (catalog[name]?.any (·.containerSha256.isSome)) = true → name ∈ s.raw
  | (.pull _ .vm _, _) => True
  | (.delete name _, crash) => s.oci[name]? = none ∧ crash ≠ some 1

namespace Sound

variable (h : Sound digest catalog s)
include h

theorem mem_raw {m : ImageMeta} (hm : m ∈ s.readMetadata) : m.name ∈ s.raw := by
  rw [readMetadata] at hm
  cases hmeta : s.metadata with
  | none =>
      rw [hmeta, Option.getD_none] at hm
      obtain ⟨name, hname, rfl⟩ := List.mem_map.mp hm
      exact Std.ExtTreeMap.mem_keys.mp hname
  | some images =>
      rw [hmeta, Option.getD_some] at hm
      exact h.recorded images hmeta m hm

theorem replaceMeta {added : List ImageMeta} (hadded : ∀ m ∈ added, m.name ∈ s.raw) :
    Sound digest catalog (s.replaceMeta name added) := by
  refine ⟨h.others, h.raw, h.oci, fun images himages m hm => ?_⟩
  cases himages
  rcases List.mem_append.mp hm with hm | hm
  · exact h.mem_raw (List.mem_of_mem_filter hm)
  · exact hadded m hm

theorem addRaw (hentry : catalog[name]? = some entry) (hsha : digest content = entry.sha256) :
    Sound digest catalog { s with raw := s.raw.insert name content } := by
  refine ⟨h.others, fun other c hc => ?_, h.oci, fun images himages m hm => ?_⟩
  · dsimp only at hc
    rw [Std.ExtTreeMap.getElem?_insert] at hc
    split at hc
    · rename_i heq
      cases hc
      exact ⟨entry, Std.LawfulEqCmp.eq_of_compare heq ▸ hentry, hsha⟩
    · exact h.raw other c hc
  · exact Std.ExtTreeMap.mem_insert.mpr (.inr (h.recorded images himages m hm))

theorem addOci (hentry : catalog[name]? = some entry) (hsha : entry.containerSha256 = some (digest content)) :
    Sound digest catalog { s with oci := s.oci.insert name content } := by
  refine ⟨h.others, h.raw, fun other c hc => ?_, h.recorded⟩
  dsimp only at hc
  rw [Std.ExtTreeMap.getElem?_insert] at hc
  split at hc
  · rename_i heq
    cases hc
    exact ⟨entry, Std.LawfulEqCmp.eq_of_compare heq ▸ hentry, hsha⟩
  · exact h.oci other c hc

theorem remove (name : String) :
    Sound digest catalog (ImageStore.replaceMeta name [] { s with raw := s.raw.erase name }) := by
  refine ⟨h.others, fun other c hc => ?_, h.oci, fun images himages m hm => ?_⟩
  · refine h.raw other c ?_
    simp only [ImageStore.replaceMeta, Std.ExtTreeMap.getElem?_erase] at hc
    split at hc
    · cases hc
    · exact hc
  · cases himages
    rw [List.append_nil, List.mem_filter, bne_iff_ne] at hm
    rw [readMetadata] at hm
    cases hmeta : s.metadata with
    | none =>
        simp only [hmeta, Option.getD_none] at hm
        obtain ⟨other, hother, rfl⟩ := List.mem_map.mp hm.1
        exact Std.ExtTreeMap.mem_keys.mp hother
    | some images =>
        simp only [hmeta, Option.getD_some] at hm
        refine Std.ExtTreeMap.mem_erase.mpr ⟨?_, h.recorded images hmeta m hm.1⟩
        exact fun heq => hm.2 (Std.LawfulEqCmp.eq_of_compare heq).symm

end Sound

section Steps

variable {call : Call Content} {crash : Option ℕ} {answer : Except ImageError Unit}

theorem step_of_nothing (hplan : call.plan digest catalog s = (answer, [])) :
    step digest catalog (call, crash) s = (if crash.isSome then none else some answer, s) := by
  cases crash <;> simp [step, hplan]

/-- With two writes, a crash leaves the state before them, between them or after them. -/
theorem step_of_two {first second : ImageStore Content → ImageStore Content}
    (hplan : call.plan digest catalog s = (.ok (), [first, second])) (hbefore : Sound digest catalog s)
    (hbetween : crash = some 1 → Sound digest catalog (first s)) (hafter : Sound digest catalog (second (first s))) :
    Sound digest catalog (step digest catalog (call, crash) s).2 ∧
      ((step digest catalog (call, crash) s).1 = some (.ok ()) →
        (step digest catalog (call, crash) s).2 = second (first s)) := by
  simp only [step, hplan]
  match crash with
  | none => exact ⟨hafter, fun _ => rfl⟩
  | some 0 => exact ⟨hbefore, nofun⟩
  | some 1 => exact ⟨hbetween rfl, nofun⟩
  | some (done + 2) => exact ⟨by simpa using hafter, nofun⟩

theorem step_of_failed {e : ImageError} (hplan : call.plan digest catalog s = (.error e, []))
    (h : Sound digest catalog s) :
    Sound digest catalog (step digest catalog (call, crash) s).2 ∧
      ((step digest catalog (call, crash) s).1 = some (.ok ()) →
        Delivers digest catalog (step digest catalog (call, crash) s).2 call) := by
  rw [step_of_nothing hplan]
  exact ⟨h, by cases crash <;> simp⟩

variable {download : Option Content} {mode : RuntimeMode}

/-- A pull of the raw image, which every pull is but that of an archive. -/
theorem step_pull (h : Sound digest catalog s) (hentry : catalog[name]? = some entry)
    (hplan : (Call.pull name mode download).plan digest catalog s = pull digest s name entry download) :
    Sound digest catalog (step digest catalog (.pull name mode download, crash) s).2 ∧
      ((step digest catalog (.pull name mode download, crash) s).1 = some (.ok ()) →
        ∃ c, (step digest catalog (.pull name mode download, crash) s).2.raw[name]? = some c ∧
          digest c = entry.sha256) := by
  rw [pull] at hplan
  split at hplan
  case isTrue hskip =>
    rw [step_of_nothing hplan]
    refine ⟨h, fun _ => ?_⟩
    -- the record vouches for the file
    obtain ⟨m, hget, -⟩ := (Option.any_eq_true ..).mp hskip
    have hmem := h.mem_raw (List.mem_of_find?_eq_some hget)
    have hname := List.find?_some hget
    rw [beq_iff_eq] at hname
    rw [hname] at hmem
    obtain ⟨c, hc⟩ := Std.ExtTreeMap.isSome_getElem?_iff_mem.mpr hmem |> Option.isSome_iff_exists.mp
    obtain ⟨entry', hentry', hsha⟩ := h.raw name c hc
    cases hentry.symm.trans hentry'
    exact ⟨c, hc, hsha⟩
  case isFalse =>
    cases download with
    | none =>
        rw [pullInner] at hplan
        rw [step_of_nothing hplan]
        exact ⟨h, by cases crash <;> simp⟩
    | some content =>
        rw [pullInner] at hplan
        split at hplan
        case isFalse =>
          rw [step_of_nothing hplan]
          exact ⟨h, by cases crash <;> simp⟩
        case isTrue hsha =>
          have hadded := h.addRaw hentry hsha
          have hmem : name ∈ s.raw.insert name content := Std.ExtTreeMap.mem_insert_self
          obtain ⟨hsound, heq⟩ := @step_of_two _ _ _ s _ crash _ _ hplan h (fun _ => hadded)
            (hadded.replaceMeta fun m hm => by cases List.mem_singleton.mp hm; exact hmem)
          refine ⟨hsound, fun hok => ⟨content, ?_, hsha⟩⟩
          rw [heq hok]
          exact Std.ExtTreeMap.getElem?_insert_self

/-- A pull of an archive, next to the raw image. -/
theorem step_pullOci {containerSha : String} (h : Sound digest catalog s) (hentry : catalog[name]? = some entry)
    (hsha : entry.containerSha256 = some containerSha) (hraw : name ∈ s.raw)
    (hplan : (Call.pull name mode download).plan digest catalog s = pullOci digest name entry containerSha download) :
    Sound digest catalog (step digest catalog (.pull name mode download, crash) s).2 ∧
      ((step digest catalog (.pull name mode download, crash) s).1 = some (.ok ()) →
        ∃ c, (step digest catalog (.pull name mode download, crash) s).2.oci[name]? = some c ∧
          digest c = containerSha) := by
  cases download with
  | none =>
      rw [pullOci] at hplan
      rw [step_of_nothing hplan]
      exact ⟨h, by cases crash <;> simp⟩
  | some content =>
      rw [pullOci] at hplan
      split at hplan
      case isFalse =>
        rw [step_of_nothing hplan]
        exact ⟨h, by cases crash <;> simp⟩
      case isTrue hdigest =>
        have hadded := @Sound.addOci _ digest catalog s name entry content h hentry (by rw [hsha, hdigest])
        obtain ⟨hsound, heq⟩ := @step_of_two _ _ _ s _ crash _ _ hplan h (fun _ => hadded)
          (hadded.replaceMeta fun m hm => by cases List.mem_singleton.mp hm; exact hraw)
        refine ⟨hsound, fun hok => ⟨content, ?_, hdigest⟩⟩
        rw [heq hok]
        exact Std.ExtTreeMap.getElem?_insert_self

theorem step_delete {vmRefs : Table ℕ} (h : Sound digest catalog s) (hoci : s.oci[name]? = none)
    (hcrash : crash ≠ some 1) :
    Sound digest catalog (step digest catalog (.delete name vmRefs, crash) s).2 ∧
      ((step digest catalog (.delete name vmRefs, crash) s).1 = some (.ok ()) →
        Delivers digest catalog (step digest catalog (.delete name vmRefs, crash) s).2 (.delete name vmRefs)) := by
  have hplan : (Call.delete name vmRefs).plan digest catalog s = s.delete name vmRefs := rfl
  rw [delete] at hplan
  split at hplan
  case isTrue => exact step_of_failed hplan h
  case isFalse =>
    split at hplan
    case h_1 => exact step_of_failed hplan h
    case h_2 =>
      obtain ⟨hsound, heq⟩ := step_of_two hplan h (fun h => absurd h hcrash) (h.remove name)
      refine ⟨hsound, fun hok => ?_⟩
      rw [heq hok]
      exact ⟨Std.ExtTreeMap.getElem?_erase_self, hoci⟩

theorem step_of_orderly (h : Sound digest catalog s) (horderly : Orderly catalog s (call, crash)) :
    Sound digest catalog (step digest catalog (call, crash) s).2 ∧
      ((step digest catalog (call, crash) s).1 = some (.ok ()) →
        Delivers digest catalog (step digest catalog (call, crash) s).2 call) := by
  cases call with
  | delete name vmRefs => exact step_delete h horderly.1 horderly.2
  | pull name mode download =>
      have hplan : (Call.pull name mode download).plan digest catalog s =
        pullForRuntime digest s catalog name mode download := rfl
      rw [pullForRuntime] at hplan
      cases hentry : catalog[name]? with
      | none =>
          rw [hentry] at hplan
          exact step_of_failed hplan h
      | some entry =>
          simp only [hentry] at hplan
          cases mode with
          | vm =>
              obtain ⟨hsound, hok⟩ := step_pull h hentry hplan
              refine ⟨hsound, fun hreply => ?_⟩
              obtain ⟨c, hc⟩ := hok hreply
              exact ⟨entry, c, hentry, hc⟩
          | container =>
              cases hsha : entry.containerSha256 with
              | none =>
                  simp only [hsha] at hplan
                  refine ⟨(step_pull h hentry hplan).1, fun _ entry' sha hentry' hsha' => ?_⟩
                  cases hentry.symm.trans hentry'
                  cases hsha.symm.trans hsha'
              | some containerSha =>
                  have hraw : name ∈ s.raw := horderly (by simp [hentry, hsha])
                  simp only [hsha, h.others, List.contains_nil, Bool.and_false] at hplan
                  obtain ⟨hsound, hok⟩ := step_pullOci h hentry hsha hraw hplan
                  refine ⟨hsound, fun hreply entry' sha hentry' hsha' => ?_⟩
                  cases hentry.symm.trans hentry'
                  cases hsha.symm.trans hsha'
                  exact hok hreply

end Steps

/-- **In a run of orderly calls, whatever a call answers is so.** -/
theorem pulled_images_there (digest : Content → String) (catalog : Table CatalogEntry)
    (calls : List (Call Content × Option ℕ))
    (horderly : ∀ e ∈ trace (step digest catalog) calls empty, Orderly catalog e.before e.action) :
    ∀ e ∈ trace (step digest catalog) calls empty,
      e.reply = some (.ok ()) → Delivers digest catalog e.after e.action.1 := by
  refine forall_trace (I := Sound digest catalog) sound_empty (fun s call hsound hcall => ?_) horderly
  exact step_of_orderly hsound hcall

/-- A catalog with one image in both variants, with files that are their own checksums. -/
def ubuntu : Table CatalogEntry := {("ubuntu", ⟨"raw", some "oci"⟩)}

theorem pulled_images_there_both :
    let calls := [(.pull "ubuntu" .vm (some "raw"), none), (.pull "ubuntu" .container (some "oci"), none)]
    (∀ e ∈ trace (step id ubuntu) calls empty, Orderly ubuntu e.before e.action) ∧
      ∀ e ∈ trace (step id ubuntu) calls empty, e.reply = some (.ok ()) → Delivers id ubuntu e.after e.action.1 := by
  intro calls
  have horderly : ∀ e ∈ trace (step id ubuntu) calls empty, Orderly ubuntu e.before e.action := by
    refine List.forall_mem_cons.mpr ⟨trivial, List.forall_mem_singleton.mpr fun _ => ?_⟩
    exact Std.ExtTreeMap.mem_insert_self
  exact ⟨horderly, pulled_images_there id ubuntu calls horderly⟩

/-- **A record without its files**: after the archive alone was pulled, a pull of the raw image is
answered by the record; and a deletion leaves the archive. -/
theorem archive_taken_for_image :
    (∃ e ∈ trace (step id ubuntu)
        [(.pull "ubuntu" .container (some "oci"), none), (.pull "ubuntu" .vm (some "raw"), none)] empty,
      e.reply = some (.ok ()) ∧ ¬ Delivers id ubuntu e.after e.action.1) ∧
    ∃ e ∈ trace (step id ubuntu)
        [(.pull "ubuntu" .container (some "oci"), none), (.delete "ubuntu" ∅, none)] empty,
      e.reply = some (.ok ()) ∧ ¬ Delivers id ubuntu e.after e.action.1 := by
  refine ⟨⟨_, List.mem_cons_of_mem _ List.mem_cons_self, by decide +kernel, fun hraw => ?_⟩,
    ⟨_, List.mem_cons_of_mem _ List.mem_cons_self, by decide +kernel, fun hnone => ?_⟩⟩
  · obtain ⟨entry, c, -, hc, -⟩ := hraw
    have hnone : (Exec.of (step id ubuntu) (.pull "ubuntu" .vm (some "raw"), none)
      (step id ubuntu (.pull "ubuntu" .container (some "oci"), none) empty).2).after.raw["ubuntu"]? = none := by
      decide +kernel
    cases hnone.symm.trans hc
  · have hsome : (Exec.of (step id ubuntu) (.delete "ubuntu" ∅, none)
      (step id ubuntu (.pull "ubuntu" .container (some "oci"), none) empty).2).after.oci["ubuntu"]? = some "oci" := by
      decide +kernel
    cases hsome.symm.trans hnone.2

end ImageStore

end Compute

end Syfrah
