import Mathlib.Tactic

/-!
# Transactions that keep their writes when they fail

A store operation reads and writes a state and may return an error. An error does not undo the
writes made before it: the state it leaves is the state at the point of failure. `Tx` is that monad,
and this file is the small program logic the development uses for it: what a transaction may do to
the state (`Steps`) and what one run of it ensures (`Ensures`).
-/

namespace Syfrah

/-- A computation over a state `S` that fails with an `ε`; a failure keeps the state reached. -/
abbrev Tx (ε S α : Type) := ExceptT ε (StateM S) α

namespace Tx

variable {ε ε' S S' A α β : Type}

@[simp]
theorem pure_apply (a : α) (s : S) : (pure a : Tx ε S α) s = (.ok a, s) := rfl

@[simp]
theorem throw_apply (e : ε) (s : S) : (throw e : Tx ε S α) s = (.error e, s) := rfl

theorem bind_apply (m : Tx ε S α) (k : α → Tx ε S β) (s : S) :
    (m >>= k) s = match m s with
      | (.ok a, s') => k a s'
      | (.error e, s') => (.error e, s') := by
  change (StateT.bind m (ExceptT.bindCont k)) s = _
  rw [StateT.bind]
  change (match m s with | (r, s') => ExceptT.bindCont k r s') = _
  rcases m s with ⟨r, s'⟩
  cases r <;> rfl

theorem bind_apply_ok {m : Tx ε S α} {k : α → Tx ε S β} {s s' : S} {a : α}
    (h : m s = (.ok a, s')) : (m >>= k) s = k a s' := by
  rw [bind_apply, h]

theorem bind_apply_error {m : Tx ε S α} {k : α → Tx ε S β} {s s' : S} {e : ε}
    (h : m s = (.error e, s')) : (m >>= k) s = (.error e, s') := by
  rw [bind_apply, h]

def read (f : S → α) : Tx ε S α := fun s => (.ok (f s), s)

def write (f : S → S) : Tx ε S Unit := fun s => (.ok (), f s)

def take (f : S → α × S) : Tx ε S α := fun s => (.ok (f s).1, (f s).2)

/-- Fail with `e` when the test holds. -/
def rejectIf (b : Bool) (e : ε) : Tx ε S Unit := if b then throw e else pure ()

/-- The value, or failure with `e` when there is none. -/
def orThrow (o : Option α) (e : ε) : Tx ε S α :=
  match o with
  | some a => pure a
  | none => throw e

/-- Fail with the error of a value, when there is one. -/
def rejectSome (o : Option α) (e : α → ε) : Tx ε S Unit :=
  match o with
  | some a => throw (e a)
  | none => pure ()

/-- Run a transaction for each element, in order, up to the first failure. -/
def each (f : α → Tx ε S Unit) : List α → Tx ε S Unit
  | [] => pure ()
  | a :: as => do
      f a
      each f as

/-- Run a fallible pure step on the state, which it leaves alone when it fails. -/
def attempt (f : S → Except ε (α × S)) : Tx ε S α := fun s =>
  match f s with
  | .ok (a, s') => (.ok a, s')
  | .error e => (.error e, s)

/-- Turn the failures of a transaction into values. -/
def result (m : Tx ε S α) : Tx ε' S (Except ε α) := fun s => (.ok (m s).1, (m s).2)

def mapError (f : ε → ε') (m : Tx ε S α) : Tx ε' S α := fun s =>
  match m s with
  | (.ok a, s') => (.ok a, s')
  | (.error e, s') => (.error (f e), s')

@[simp] theorem read_apply (f : S → α) (s : S) : (read f : Tx ε S α) s = (.ok (f s), s) := rfl

@[simp] theorem write_apply (f : S → S) (s : S) : (write f : Tx ε S Unit) s = (.ok (), f s) := rfl

@[simp] theorem take_apply (f : S → α × S) (s : S) :
    (take f : Tx ε S α) s = (.ok (f s).1, (f s).2) := rfl

@[simp] theorem result_apply (m : Tx ε S α) (s : S) :
    (m.result : Tx ε' S _) s = (.ok (m s).1, (m s).2) := rfl

theorem rejectIf_apply (b : Bool) (e : ε) (s : S) :
    rejectIf b e s = (if b then .error e else .ok (), s) := by
  cases b <;> rfl

@[simp] theorem rejectIf_true (e : ε) (s : S) : rejectIf true e s = (.error e, s) := rfl

@[simp] theorem rejectIf_false (e : ε) (s : S) : rejectIf false e s = (.ok (), s) := rfl

@[simp] theorem orThrow_some (a : α) (e : ε) (s : S) : orThrow (some a) e s = (.ok a, s) := rfl

@[simp] theorem orThrow_none (e : ε) (s : S) :
    orThrow (none : Option α) e s = (.error e, s) := rfl

/-! ### A part of the state -/

/-- A component of a state, with the laws of a field. -/
structure Lens (S A : Type) where
  get : S → A
  set : A → S → S
  get_set : ∀ a s, get (set a s) = a
  set_get : ∀ s, set (get s) s = s
  set_set : ∀ a b s, set b (set a s) = set b s

/-- Run a transaction on one component of the state. -/
def zoom (l : Lens S A) (m : Tx ε A α) : Tx ε S α := fun s =>
  ((m (l.get s)).1, l.set (m (l.get s)).2 s)

@[simp]
theorem zoom_apply (l : Lens S A) (m : Tx ε A α) (s : S) :
    zoom l m s = ((m (l.get s)).1, l.set (m (l.get s)).2 s) := rfl

/-! ### What a transaction may do to the state -/

/-- Every run of the transaction, failed runs included, moves the state along `R`. -/
def Steps (R : S → S → Prop) (m : Tx ε S α) : Prop := ∀ s, R s (m s).2

section Steps

variable {R : S → S → Prop}

theorem Steps.mono {R' : S → S → Prop} {m : Tx ε S α} (hm : Steps R m)
    (h : ∀ s s', R s s' → R' s s') : Steps R' m :=
  fun s => h _ _ (hm s)

theorem Steps.result {m : Tx ε S α} (hm : Steps R m) : Steps R (m.result : Tx ε' S (Except ε α)) :=
  hm

theorem Steps.mapError {m : Tx ε S α} (hm : Steps R m) (f : ε → ε') : Steps R (m.mapError f) := by
  intro s
  have hstep := hm s
  unfold Tx.mapError
  rcases hrun : m s with ⟨r, s'⟩
  rw [hrun] at hstep
  cases r <;> exact hstep

variable [IsPreorder S R]

theorem Steps.pure {a : α} : Steps R (Pure.pure a : Tx ε S α) := fun s => refl_of R s

theorem Steps.throw {e : ε} : Steps R (MonadExcept.throw e : Tx ε S α) := fun s => refl_of R s

theorem Steps.read {f : S → α} : Steps R (read f : Tx ε S α) := fun s => refl_of R s

theorem Steps.rejectIf {b : Bool} {e : ε} : Steps R (rejectIf b e) := by
  intro s
  rw [rejectIf_apply]
  exact refl_of R s

theorem Steps.rejectSome {o : Option α} {e : α → ε} : Steps R (rejectSome o e) := by
  intro s
  cases o with
  | none => exact refl_of R s
  | some a => exact refl_of R s

theorem Steps.orThrow {o : Option α} {e : ε} : Steps R (orThrow o e) := by
  intro s
  cases o with
  | none => exact refl_of R s
  | some a => exact refl_of R s

theorem Steps.bind {m : Tx ε S α} {k : α → Tx ε S β} (hm : Steps R m)
    (hk : ∀ a, Steps R (k a)) : Steps R (m >>= k) := by
  intro s
  have hfirst := hm s
  rw [bind_apply]
  rcases hrun : m s with ⟨r, s'⟩
  rw [hrun] at hfirst
  cases r with
  | error e => exact hfirst
  | ok a => exact trans_of R hfirst (hk a s')

theorem Steps.each {f : α → Tx ε S Unit} (hf : ∀ a, Steps R (f a)) (as : List α) :
    Steps R (each f as) := by
  induction as with
  | nil => exact .pure
  | cons a as ih => exact .bind (hf a) fun _ => ih

end Steps

/-! ### What one run ensures -/

/-- What holds of the outcome and the last state of one run. -/
def Ensures (m : Tx ε S α) (s : S) (post : Except ε α → S → Prop) : Prop := post (m s).1 (m s).2

section Ensures

variable {s : S} {post : Except ε β → S → Prop}

theorem Ensures.mono {m : Tx ε S β} {post' : Except ε β → S → Prop} (hm : Ensures m s post)
    (h : ∀ r t, post r t → post' r t) : Ensures m s post' :=
  h _ _ hm

theorem Ensures.bind {m : Tx ε S α} {k : α → Tx ε S β} {mid : Except ε α → S → Prop}
    (hm : Ensures m s mid) (hok : ∀ a t, mid (.ok a) t → Ensures (k a) t post)
    (herror : ∀ e t, mid (.error e) t → post (.error e) t) : Ensures (m >>= k) s post := by
  unfold Ensures at hm ⊢
  rw [bind_apply]
  rcases hrun : m s with ⟨r, t⟩
  rw [hrun] at hm
  cases r with
  | ok a => exact hok a t hm
  | error e => exact herror e t hm

theorem Ensures.bind_run {m : Tx ε S α} {k : α → Tx ε S β}
    (hok : ∀ a t, m s = (.ok a, t) → Ensures (k a) t post)
    (herror : ∀ e t, m s = (.error e, t) → post (.error e) t) : Ensures (m >>= k) s post :=
  Ensures.bind (show Ensures m s fun result t => m s = (result, t) from rfl) hok herror

theorem Ensures.bind_ok {m : Tx ε S α} {k : α → Tx ε S β} {a : α} {t : S} (hm : m s = (.ok a, t))
    (hk : Ensures (k a) t post) : Ensures (m >>= k) s post := by
  unfold Ensures
  rw [bind_apply_ok hm]
  exact hk

theorem Ensures.bind_total {m : Tx ε S α} {k : α → Tx ε S β} {a : α} (hm : (m s).1 = .ok a)
    (hk : Ensures (k a) (m s).2 post) : Ensures (m >>= k) s post :=
  Ensures.bind_ok (Prod.ext hm rfl) hk

theorem Ensures.forget {m : Tx ε S β} {P : S → Prop} (h : P s) (hm : ∀ t, P t → Ensures m t post) :
    Ensures m s post := hm s h

theorem Ensures.result {m : Tx ε' S α} {k : Except ε' α → Tx ε S β}
    (h : Ensures (k (m s).1) (m s).2 post) : Ensures (m.result >>= k) s post := h

theorem Ensures.pure {a : β} (h : post (.ok a) s) : Ensures (Pure.pure a) s post := h

theorem Ensures.read {f : S → α} {k : α → Tx ε S β} (h : Ensures (k (f s)) s post) :
    Ensures (Tx.read f >>= k) s post := h

theorem Ensures.write {f : S → S} {k : Unit → Tx ε S β} (h : Ensures (k ()) (f s) post) :
    Ensures (Tx.write f >>= k) s post := h

theorem Ensures.take {f : S → α × S} {k : α → Tx ε S β} (h : Ensures (k (f s).1) (f s).2 post) :
    Ensures (Tx.take f >>= k) s post := h

theorem Ensures.rejectIf {b : Bool} {e : ε} {k : Unit → Tx ε S β}
    (hreject : b = true → post (.error e) s) (hgo : b = false → Ensures (k ()) s post) :
    Ensures (Tx.rejectIf b e >>= k) s post := by
  cases b with
  | true => exact hreject rfl
  | false => exact hgo rfl

theorem Ensures.rejectSome {o : Option α} {e : α → ε} {k : Unit → Tx ε S β}
    (hsome : ∀ a, o = some a → post (.error (e a)) s) (hnone : o = none → Ensures (k ()) s post) :
    Ensures (Tx.rejectSome o e >>= k) s post := by
  cases o with
  | none => exact hnone rfl
  | some a => exact hsome a rfl

theorem Ensures.orThrow {o : Option α} {e : ε} {k : α → Tx ε S β}
    (hnone : o = none → post (.error e) s) (hsome : ∀ a, o = some a → Ensures (k a) s post) :
    Ensures (Tx.orThrow o e >>= k) s post := by
  cases o with
  | none => exact hnone rfl
  | some a => exact hsome a rfl

end Ensures

end Tx

end Syfrah
