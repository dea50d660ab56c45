import ProgramRepair.Project.Workspace

/-!
# What work on a disk leaves

Work that fails half-way leaves what was done up to then, so a statement about
work says something for both outcomes. `Leaves` is such a statement, and there is
one rule for each way of putting work together.
-/

namespace ProgramRepair.DiskWork

variable {α β : Type} {d : Disk} {post : α → Disk → Prop} {fail : Disk → Prop}

/-- Work goes on with what was done before, unless that failed. -/
theorem run_bind (x : DiskWork α) (f : α → DiskWork β) (d : Disk) :
    (x >>= f).run.run d =
      match x.run.run d with
      | (.ok a, d') => (f a).run.run d'
      | (.error e, d') => (.error e, d') := by
  simp only [ExceptT.run_bind, StateT.run_bind]
  rcases x.run.run d with ⟨e | a, d'⟩ <;> rfl

theorem bind_ok {x : DiskWork α} {f : α → DiskWork β} {b : β} {d' : Disk}
    (h : (x >>= f).run.run d = (.ok b, d')) :
    ∃ a d₁, x.run.run d = (.ok a, d₁) ∧ (f a).run.run d₁ = (.ok b, d') := by
  rw [run_bind] at h
  split at h
  · next a d₁ hx => exact ⟨a, d₁, hx, h⟩
  · cases h

@[simp] theorem run_ask (f : Disk → Except Disk.Error α) (d : Disk) :
    (ask f).run.run d =
      match f d with
      | .ok a => (.ok a, d)
      | .error e => (.error e, d) := by
  change (match f d with
    | .ok a => (pure a : DiskWork α)
    | .error e => throw e).run.run d = _
  cases f d <;> rfl

@[simp] theorem run_change (f : Disk → Except Disk.Error Disk) (d : Disk) :
    (change f).run.run d =
      match f d with
      | .ok d' => (.ok (), d')
      | .error e => (.error e, d) := by
  rw [change, run_bind, run_ask]
  cases f d <;> rfl

theorem change_ok {f : Disk → Except Disk.Error Disk} {u : Unit} {d' : Disk}
    (h : (change f).run.run d = (.ok u, d')) : f d = .ok d' := by
  rw [run_change] at h
  split at h
  · next d₁ hd₁ =>
    cases h
    exact hd₁
  · cases h

theorem ask_ok {f : Disk → Except Disk.Error α} {a : α} {d' : Disk}
    (h : (ask f).run.run d = (.ok a, d')) : f d = .ok a ∧ d' = d := by
  rw [run_ask] at h
  split at h
  · next b hb =>
    cases h
    exact ⟨hb, rfl⟩
  · cases h

/-- Work on the disk `d` leaves a disk with `post` if it succeeds, and one with `fail` if not. -/
structure Leaves (x : DiskWork α) (d : Disk) (post : α → Disk → Prop) (fail : Disk → Prop) :
    Prop where
  ok : ∀ a d', x.run.run d = (.ok a, d') → post a d'
  error : ∀ e d', x.run.run d = (.error e, d') → fail d'

theorem Leaves.mono {x : DiskWork α} {post' : α → Disk → Prop} {fail' : Disk → Prop}
    (h : Leaves x d post fail) (hpost : ∀ a d', post a d' → post' a d')
    (hfail : ∀ d', fail d' → fail' d') : Leaves x d post' fail' where
  ok a d' hx := hpost a d' (h.ok a d' hx)
  error e d' hx := hfail d' (h.error e d' hx)

/-- Work whose outcome is known. -/
theorem leaves_of_ok {x : DiskWork α} {a : α} {d' : Disk} (hx : x.run.run d = (.ok a, d'))
    (h : post a d') : Leaves x d post fail where
  ok b d'' hb := by
    cases hx.symm.trans hb
    exact h
  error e d'' he := by cases hx.symm.trans he

theorem leaves_of_error {x : DiskWork α} {e : Disk.Error} {d' : Disk}
    (hx : x.run.run d = (.error e, d')) (h : fail d') : Leaves x d post fail where
  ok a d'' ha := by cases hx.symm.trans ha
  error f d'' hf := by
    cases hx.symm.trans hf
    exact h

theorem leaves_pure {a : α} (h : post a d) : Leaves (pure a : DiskWork α) d post fail :=
  leaves_of_ok rfl h

theorem leaves_throw {e : Disk.Error} (h : fail d) : Leaves (throw e : DiskWork α) d post fail :=
  leaves_of_error rfl h

theorem leaves_bind {x : DiskWork α} {f : α → DiskWork β} {post : β → Disk → Prop}
    (h : Leaves x d (fun a d' => Leaves (f a) d' post fail) fail) :
    Leaves (x >>= f) d post fail := by
  have hrun := run_bind x f d
  rcases hx : x.run.run d with ⟨e | a, d'⟩
  all_goals rw [hx] at hrun
  · exact leaves_of_error hrun (h.error e d' hx)
  · exact ⟨fun b d'' hb => (h.ok a d' hx).ok b d'' (hrun.symm.trans hb),
      fun e d'' he => (h.ok a d' hx).error e d'' (hrun.symm.trans he)⟩

theorem leaves_get {post : Disk → Disk → Prop} (h : post d d) :
    Leaves (get : DiskWork Disk) d post fail :=
  leaves_of_ok rfl h

theorem leaves_modify {f : Disk → Disk} {post : Unit → Disk → Prop} (h : post () (f d)) :
    Leaves (modify f) d post fail :=
  leaves_of_ok rfl h

theorem leaves_ask {f : Disk → Except Disk.Error α} (hok : ∀ a, f d = .ok a → post a d)
    (hfail : fail d) : Leaves (ask f) d post fail := by
  refine leaves_bind (leaves_get ?_)
  split
  · next a ha => exact leaves_pure (hok a ha)
  · exact leaves_throw hfail

theorem leaves_change {f : Disk → Except Disk.Error Disk} {post : Unit → Disk → Prop}
    (hok : ∀ d', f d = .ok d' → post () d') (hfail : fail d) : Leaves (change f) d post fail :=
  leaves_bind (leaves_ask (fun d' hd' => leaves_of_ok rfl (hok d' hd')) hfail)

theorem leaves_ask_bind {f : Disk → Except Disk.Error α} {g : α → DiskWork β}
    {post : β → Disk → Prop} (hok : ∀ a, f d = .ok a → Leaves (g a) d post fail)
    (hfail : fail d) : Leaves (ask f >>= g) d post fail :=
  leaves_bind (leaves_ask hok hfail)

theorem leaves_change_bind {f : Disk → Except Disk.Error Disk} {g : Unit → DiskWork β}
    {post : β → Disk → Prop} (hok : ∀ d', f d = .ok d' → Leaves (g ()) d' post fail)
    (hfail : fail d) : Leaves (change f >>= g) d post fail :=
  leaves_bind (leaves_change hok hfail)

/-- What holds before the first item of a list and is carried over every item, whatever was done
before it, holds in the end. -/
theorem leaves_forM {l : List α} {f : α → DiskWork Unit} {I : List α → Disk → Prop}
    (hstep : ∀ done a rest d, l = done ++ a :: rest → I done d →
      Leaves (f a) d (fun _ d' => I (done ++ [a]) d') fail)
    (hstart : I [] d) : Leaves (l.forM f) d (fun _ d' => I l d') fail := by
  -- the induction is on what is left, for any items done before
  suffices h : ∀ rest done d, l = done ++ rest → I done d →
      Leaves (rest.forM f) d (fun _ d' => I l d') fail from h l [] d rfl hstart
  intro rest
  induction rest with
  | nil =>
    intro done d hsplit hd
    rw [List.append_nil] at hsplit
    exact leaves_pure (hsplit ▸ hd)
  | cons a rest ih =>
    intro done d hsplit hd
    refine leaves_bind ((hstep done a rest d hsplit hd).mono (fun _ d' hd' => ?_) fun _ h => h)
    exact ih (done ++ [a]) d' (by rw [hsplit, List.append_assoc, List.singleton_append]) hd'

/-- What is carried over every item whose work succeeds holds when the work on all has succeeded. -/
theorem forM_ok {l : List α} {f : α → DiskWork Unit} {I : List α → Disk → Prop} {d' : Disk}
    (hstep : ∀ done a rest d d', l = done ++ a :: rest → I done d →
      (f a).run.run d = (.ok (), d') → I (done ++ [a]) d')
    (hstart : I [] d) (h : (l.forM f).run.run d = (.ok (), d')) : I l d' := by
  have hleaves : Leaves (l.forM f) d (fun _ d' => I l d') fun _ => True :=
    leaves_forM (fun done a rest d hsplit hd =>
      ⟨fun _ d' hrun => hstep done a rest d d' hsplit hd hrun, fun _ _ _ => trivial⟩) hstart
  exact hleaves.ok () d' h

/-- Work on a list succeeds if it does on each item, where `I` says what was done up to there. -/
theorem exists_forM {l : List α} {f : α → DiskWork Unit} {I : List α → Disk → Prop}
    (hstep : ∀ done a rest d, l = done ++ a :: rest → I done d →
      ∃ d', (f a).run.run d = (.ok (), d') ∧ I (done ++ [a]) d')
    (hstart : I [] d) : ∃ d', (l.forM f).run.run d = (.ok (), d') ∧ I l d' := by
  -- the induction is on what is left, for any items done before
  suffices h : ∀ rest done d, l = done ++ rest → I done d →
      ∃ d', (rest.forM f).run.run d = (.ok (), d') ∧ I l d' from h l [] d rfl hstart
  intro rest
  induction rest with
  | nil =>
    intro done d hsplit hd
    rw [List.append_nil] at hsplit
    exact ⟨d, rfl, hsplit ▸ hd⟩
  | cons a rest ih =>
    intro done d hsplit hd
    obtain ⟨d₁, hrun, hd₁⟩ := hstep done a rest d hsplit hd
    obtain ⟨d', hrest, hd'⟩ := ih (done ++ [a]) d₁ (by simp [hsplit]) hd₁
    refine ⟨d', ?_, hd'⟩
    change (f a >>= fun _ => rest.forM f).run.run d = _
    rw [run_bind, hrun]
    exact hrest

end ProgramRepair.DiskWork
