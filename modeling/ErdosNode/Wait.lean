import Mathlib.Data.Nat.Find
import Mathlib.Data.List.Basic

/-
The loop shape of the three startup barriers, `while pending(state) { read.await; body }`, run on
the finite list of values its awaits return: it returns, panics, or is still waiting when the
reads run out.
-/

namespace ErdosNode

universe u v

variable {σ : Type u} {α : Type v}

/-- What a wait loop has done with the reads it was given. -/
inductive Wait where
  /-- The loop returned `result` after consuming `consumed` reads. -/
  | returned (result : Except String Unit) (consumed : Nat)
  /-- Every read was consumed and the loop still awaits the next one. -/
  | blocked
  /-- The body reached `unreachable!()`. -/
  | panicked
deriving Repr

/-- Count one more consumed read. -/
def Wait.later : Wait → Wait
  | .returned result consumed => .returned result (consumed + 1)
  | w => w

/-- What the loop body does with one read. -/
inductive Next (σ : Type u) where
  | continue (state : σ)
  | fail (message : String)
  | panic

/-- `while pending(state) { let read = ...await; body }` over the reads the awaits return. -/
def waitWhile (pending : σ → Bool) (body : σ → α → Next σ) : σ → List α → Wait
  | state, reads =>
    if pending state then
      match reads with
      | [] => .blocked
      | read :: rest =>
        match body state read with
        | .continue state' => (waitWhile pending body state' rest).later
        | .fail message => .returned (.error message) 1
        | .panic => .panicked
    else .returned (.ok ()) 0

/-- `k` is the length of the shortest prefix of `xs` that satisfies `P`. -/
def IsFirstPrefix (P : List α → Prop) (xs : List α) (k : Nat) : Prop :=
  P (xs.take k) ∧ ∀ j < k, ¬ P (xs.take j)

instance {P : List α → Prop} [DecidablePred P] (xs : List α) (k : Nat) :
    Decidable (IsFirstPrefix P xs k) :=
  inferInstanceAs (Decidable (P (xs.take k) ∧ ∀ j < k, ¬ P (xs.take j)))

theorem IsFirstPrefix.eq_zero {P : List α → Prop} {xs : List α} {k : Nat}
    (hk : IsFirstPrefix P xs k) (hnil : P []) : k = 0 :=
  Nat.eq_zero_of_not_pos fun hpos => hk.2 0 hpos (by simpa using hnil)

theorem IsFirstPrefix.congr {P Q : List α → Prop} {xs : List α}
    (hPQ : ∀ j, P (xs.take j) ↔ Q (xs.take j)) {k : Nat} :
    IsFirstPrefix P xs k ↔ IsFirstPrefix Q xs k := by
  simp only [IsFirstPrefix, hPQ]

/-- In a list without duplicates, when a prefix has `P` exactly when it holds every element, the
first such prefix is the whole list. -/
theorem isFirstPrefix_length_of_nodup {P : List α → Prop} {xs : List α} (hnodup : xs.Nodup)
    (hP : ∀ j, P (xs.take j) ↔ ∀ x ∈ xs, x ∈ xs.take j) : IsFirstPrefix P xs xs.length := by
  refine ⟨(hP _).mpr fun x hx => by rwa [List.take_length], fun j hj hPj => ?_⟩
  have hdrop : xs[j] ∈ xs.drop j := by
    rw [List.drop_eq_getElem_cons hj]
    exact List.mem_cons_self _ _
  exact List.disjoint_take_drop hnodup (Nat.le_refl j) ((hP j).mp hPj _ (List.getElem_mem hj)) hdrop

@[simp] theorem Wait.later_eq_returned_succ {w : Wait} {result : Except String Unit} {k : Nat} :
    w.later = .returned result (k + 1) ↔ w = .returned result k := by
  cases w <;> simp [Wait.later]

@[simp] theorem Wait.later_ne_returned_zero (w : Wait) (result : Except String Unit) :
    w.later ≠ .returned result 0 := by
  cases w <;> simp [Wait.later]

@[simp] theorem Wait.later_eq_blocked {w : Wait} : w.later = .blocked ↔ w = .blocked := by
  cases w <;> simp [Wait.later]

theorem Wait.later_iterate_returned (result : Except String Unit) (consumed n : Nat) :
    Wait.later^[n] (.returned result consumed) = .returned result (consumed + n) := by
  induction n with
  | zero => rfl
  | succ n ih => rw [Function.iterate_succ_apply', ih]; rfl

theorem Wait.later_iterate_panicked (n : Nat) : Wait.later^[n] .panicked = .panicked := by
  induction n with
  | zero => rfl
  | succ n ih => rw [Function.iterate_succ_apply', ih]; rfl

theorem exists_isFirstPrefix_iff {P : List α → Prop} {xs : List α} :
    (∃ k, IsFirstPrefix P xs k) ↔ ∃ k, P (xs.take k) := by
  classical
  refine ⟨fun ⟨k, hk⟩ => ⟨k, hk.1⟩, fun h => ⟨Nat.find h, Nat.find_spec h, ?_⟩⟩
  exact fun j hj => Nat.find_min h hj

/-- For a property that only grows with the members of a list, some prefix has it exactly when
the whole list has it. -/
theorem exists_take_iff_of_mono {P : List α → Prop} {xs : List α}
    (hmono : ∀ ys zs : List α, (∀ x ∈ ys, x ∈ zs) → P ys → P zs) :
    (∃ k, P (xs.take k)) ↔ P xs :=
  ⟨fun ⟨_, hk⟩ => hmono _ _ (fun _ hx => List.mem_of_mem_take hx) hk,
    fun h => ⟨xs.length, by simpa using h⟩⟩

section Continue

variable (pending : σ → Bool) (body : σ → α → Next σ) (step : σ → α → σ)

/-- When the body only updates the state, the loop returns `Ok(())` exactly after the shortest
prefix whose updates clear the guard. -/
theorem waitWhile_eq_returned_iff (state : σ) (reads : List α)
    (hbody : ∀ s, ∀ read ∈ reads, body s read = .continue (step s read)) (k : Nat) :
    waitWhile pending body state reads = .returned (.ok ()) k ↔
      IsFirstPrefix (fun pre => pending (pre.foldl step state) = false) reads k := by
  induction reads generalizing state k with
  | nil =>
      by_cases hp : pending state
      · simp [waitWhile, hp, IsFirstPrefix]
      · have hnil : pending (([] : List α).foldl step state) = false := by simpa using hp
        simp only [waitWhile, hp, Bool.false_eq_true, if_false, Wait.returned.injEq, true_and]
        exact ⟨fun hk => hk ▸ ⟨by simpa using hp, by simp⟩,
          fun hk => (hk.eq_zero hnil).symm⟩
  | cons read rest ih =>
      by_cases hp : pending state
      · have hrest := ih (step state read) (fun s r hr => hbody s r (List.mem_cons_of_mem _ hr))
        simp only [waitWhile, hp, if_true, hbody state read (List.mem_cons_self _ _)]
        cases k with
        | zero => simp [IsFirstPrefix, hp]
        | succ k =>
            rw [Wait.later_eq_returned_succ, hrest k]
            simp only [IsFirstPrefix, List.take_succ_cons, List.foldl_cons]
            refine and_congr_right fun _ => ⟨fun h j hj => ?_, fun h j hj => ?_⟩
            · cases j with
              | zero => simp [hp]
              | succ j => simpa using h j (by omega)
            · simpa using h (j + 1) (by omega)
      · have hnil : pending (([] : List α).foldl step state) = false := by simpa using hp
        simp only [waitWhile, hp, Bool.false_eq_true, if_false, Wait.returned.injEq, true_and]
        exact ⟨fun hk => hk ▸ ⟨by simpa using hp, by simp⟩,
          fun hk => (hk.eq_zero hnil).symm⟩

/-- ... and it is still waiting after every read exactly when no prefix clears the guard. -/
theorem waitWhile_eq_blocked_iff (state : σ) (reads : List α)
    (hbody : ∀ s, ∀ read ∈ reads, body s read = .continue (step s read)) :
    waitWhile pending body state reads = .blocked ↔
      ∀ k, pending ((reads.take k).foldl step state) = true := by
  induction reads generalizing state with
  | nil => simp [waitWhile]
  | cons read rest ih =>
      by_cases hp : pending state
      · simp only [waitWhile, hp, if_true, hbody state read (List.mem_cons_self _ _),
          Wait.later_eq_blocked, ih (step state read) fun s r hr =>
            hbody s r (List.mem_cons_of_mem _ hr)]
        refine ⟨fun h k => ?_, fun h k => by simpa using h (k + 1)⟩
        cases k with
        | zero => simpa using hp
        | succ k => simpa using h k
      · simp only [waitWhile, hp, Bool.false_eq_true, if_false, reduceCtorEq, false_iff,
          not_forall]
        exact ⟨0, by simpa using hp⟩

/-- A loop given the reads it took while its guard held stands where they leave it: still waiting
if the guard holds there, returned after consuming all of them otherwise. -/
theorem waitWhile_of_guarded (state : σ) (reads : List α)
    (hbody : ∀ s, ∀ read ∈ reads, body s read = .continue (step s read))
    (hguard : ∀ j < reads.length, pending ((reads.take j).foldl step state) = true) :
    waitWhile pending body state reads =
      if pending (reads.foldl step state) then .blocked else .returned (.ok ()) reads.length := by
  induction reads generalizing state with
  | nil => by_cases hp : pending state <;> simp [waitWhile, hp]
  | cons read rest ih =>
      have hp : pending state = true := by simpa using hguard 0 (by simp)
      have hrest := ih (step state read) (fun s r hr => hbody s r (List.mem_cons_of_mem _ hr))
        fun j hj => by simpa using hguard (j + 1) (by simpa using hj)
      simp only [waitWhile, hp, if_true, hbody state read (List.mem_cons_self _ _), hrest,
        List.foldl_cons, List.length_cons]
      split <;> rfl

end Continue

/-- Reads the body only updates the state on, taken while the guard holds, leave the rest of the
loop to run from the state they reach, each counted as consumed. -/
theorem waitWhile_map_append_of_guarded {β : Type} (pending : σ → Bool) (body : σ → α → Next σ)
    (step : σ → β → σ) (f : β → α) (state : σ) (pre : List β) (reads : List α)
    (hbody : ∀ s, ∀ b ∈ pre, body s (f b) = .continue (step s b))
    (hguard : ∀ j < pre.length, pending ((pre.take j).foldl step state) = true) :
    waitWhile pending body state (pre.map f ++ reads) =
      Wait.later^[pre.length] (waitWhile pending body (pre.foldl step state) reads) := by
  induction pre generalizing state with
  | nil => rfl
  | cons b pre ih =>
      have hp : pending state = true := by simpa using hguard 0 (by simp)
      have hrest := ih (step state b) (fun s b' hb' => hbody s b' (List.mem_cons_of_mem _ hb'))
        fun j hj => by simpa using hguard (j + 1) (by simpa using hj)
      simp only [List.map_cons, List.cons_append, waitWhile, hp, if_true,
        hbody state b (List.mem_cons_self _ _), List.append_eq, hrest, List.foldl_cons,
        List.length_cons, Function.iterate_succ_apply']

end ErdosNode
