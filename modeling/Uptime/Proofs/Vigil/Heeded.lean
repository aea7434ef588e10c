import Uptime.Proofs.Vigil

/-!
# Vigils that are cancelled

When a vigil has been cancelled no round begins any more, and the round in progress launches the
probe of one target at most, which was waiting for a worker when the cancellation came. The round
goes on to its end all the same, and the vigil ends with it, after a few steps for each probe that
was launched.

## Main definitions

* `Vigil.Since`: what has become of a vigil since its cancellation.
* `Vigil.rank`: how far a vigil has come.
* `Vigil.Heeded`: the cancellation of a vigil is heeded.

## Main results

* `Vigil.Since.step`: what a move adds after the cancellation.
* `Vigil.Step.rank_lt`, `Vigil.Sound.exists_step?`: a vigil that is cancelled comes to its end.
* `Vigil.heeded_run`: every cancellation is heeded.
-/

namespace Uptime

namespace Vigil

section

variable {workers : Nat} {m : Monitor} {v v' q : Vigil} {b : VigilMove} {moves : List VigilMove}

/-! ### After the cancellation -/

/-- What has become of the vigil `q` since it was cancelled: no round has begun, and the one target
that was waiting for a worker is the only one that can have been launched. -/
structure Since (q v : Vigil) : Prop where
  cancelled : v.cancelled = true
  past_eq : v.past = q.past
  launched :
    (v.round.launched = q.round.launched ∧
      (v.cleared = true → q.cleared = true ∧ v.round.waiting = q.round.waiting)) ∨
    (v.cleared = false ∧ q.cleared = true ∧ ∃ id, q.round.waiting.head? = some id ∧
      v.round.launched = q.round.launched ++ [id])

theorem since_cancelled (q : Vigil) : q.Since q.cancel :=
  ⟨rfl, rfl, .inl ⟨rfl, fun hcleared => ⟨hcleared, rfl⟩⟩⟩

/-- A step of the round that launches nothing adds nothing. -/
theorem Since.withShift (h : q.Since v) {s : Shift}
    (hlaunched : s.round.launched = v.round.launched)
    (hwaiting : v.cleared = true → s.round.waiting = v.round.waiting) :
    q.Since { v with shift := s } where
  cancelled := h.cancelled
  past_eq := h.past_eq
  launched := by
    rw [round, hlaunched]
    refine h.launched.imp_left fun hsame => ⟨hsame.1, fun hcleared => ?_⟩
    obtain ⟨hq, hkept⟩ := hsame.2 hcleared
    exact ⟨hq, (hwaiting hcleared).trans hkept⟩

/-- **What a move adds** to a vigil that is cancelled. -/
theorem Since.step (h : q.Since v) (hv : v.Sound workers m) (hstep : Step workers v b v') :
    q.Since v' := by
  have hcancelled := h.cancelled
  cases hstep with
  | cancelled => exact ⟨rfl, h.past_eq, h.launched⟩
  | cleared _ hcancelled'
  | begun _ hcancelled' => simp [hcancelled] at hcancelled'
  | stopped hcleared hwaiting hs =>
    exact h.withShift ((Shift.step_of_step? hs).launched_eq (by simp))
      fun hcleared' => absurd hcleared' (by simp [hcleared])
  | launched hcleared hs =>
    obtain ⟨id, hwaiting, hround⟩ := (Shift.step_of_step? hs).exists_waiting_eq
    -- after one launch the next target has to be decided on, which is refused
    rcases h.launched with ⟨hsame, hkept⟩ | ⟨hcleared', -⟩
    · obtain ⟨hq, hwaiting'⟩ := hkept hcleared
      refine ⟨hcancelled, h.past_eq, .inr ⟨rfl, hq, id, ?_, ?_⟩⟩
      · rw [← hwaiting', hwaiting, List.head?_cons]
      · rw [hround, hsame]
    · simp [hcleared] at hcleared'
  | within ha ha' hs =>
    have hround := Shift.step_of_step? hs
    exact h.withShift (hround.launched_eq ha)
      fun hcleared => hround.waiting_eq ha ha' (hv.waiting_ne hcleared)
  | ended _ _ _ => exact ⟨hcancelled, h.past_eq, h.launched⟩

/-! ### How a vigil ends -/

/-- How far the round of a vigil has come, and the vigil itself if it is cancelled. -/
def rank (v : Vigil) : Nat := v.round.rank + v.round.isDecided.toNat + v.ended.toNat

@[simp] theorem rank_cancel (v : Vigil) : v.cancel.rank = v.rank := rfl

theorem rank_le (v : Vigil) : v.rank ≤ 6 + 4 * v.round.launched.length := by
  have hround := v.round.rank_le
  have hdecided := Bool.toNat_le v.round.isDecided
  have hended := Bool.toNat_le v.ended
  rw [rank]
  omega

/-- When a round is over only the end is left. -/
theorem Sound.le_rank_of_finished (h : v.Sound workers m) (hfinished : v.round.stage = .finished) :
    5 + 4 * v.round.launched.length ≤ v.rank := by
  have hconcluded := Round.concluded_run h.traced_shift.run_eq
  rw [rank, round, hconcluded.rank_eq hfinished, Round.isDecided_of_finished hfinished,
    Bool.toNat_true]
  omega

/-- **A step of its own takes a vigil further** once it is cancelled. -/
theorem Step.rank_lt (h : Step workers v b v') (hcancelled : v.cancelled = true)
    (hown : b.isOwn = true) : v.rank < v'.rank := by
  cases h with
  | cancelled => cases hown
  | cleared _ hcancelled'
  | begun _ hcancelled' => simp [hcancelled] at hcancelled'
  | stopped hcleared hwaiting hs =>
    -- the round itself does not come further by this, but nothing is left to decide on
    have hround := Shift.step_of_step? hs
    have hrank := hround.rank_eq rfl
    have hopen : v.shift.round.isDecided = false := Round.isDecided_of_waiting hwaiting
    have hdecided := hround.isDecided_of_cancelled
    simp only [rank, round, hrank, hopen, hdecided, Bool.toNat_true, Bool.toNat_false]
    omega
  | launched _ hs
  | within _ _ hs =>
    have hround := Shift.step_of_step? hs
    have hrank := hround.rank_lt hown
    have hdecided := Bool.toNat_le_toNat hround.isDecided
    simp only [rank, round]
    omega
  | ended _ _ hended => simp [rank, hended]

/-- Nothing takes it back. -/
theorem Step.rank_le (h : Step workers v b v') (hcancelled : v.cancelled = true) :
    v.rank ≤ v'.rank := by
  by_cases hown : b.isOwn = true
  · exact (h.rank_lt hcancelled hown).le
  · cases h with
    | cancelled => exact le_rfl
    | within _ _ hs =>
      have hround := Shift.step_of_step? hs
      have hrank := hround.rank_eq (by simpa [VigilMove.isOwn] using hown)
      have hdecided := Bool.toNat_le_toNat hround.isDecided
      simp only [rank, round]
      omega
    | _ => exact absurd rfl hown

theorem Step.cancelled_eq (h : Step workers v b v') (hcancelled : v.cancelled = true) :
    v'.cancelled = true := by
  cases h <;> first | rfl | exact hcancelled

/-- Every step of its own takes a vigil further once it is cancelled. -/
theorem countP_isOwn_add_rank_le (hcancelled : q.cancelled = true)
    (h : runFrom? workers q moves = some v) :
    moves.countP VigilMove.isOwn + q.rank ≤ v.rank := by
  induction moves generalizing q with
  | nil =>
    cases h
    simp
  | cons b moves ih =>
    obtain ⟨q', hq, hrest⟩ := Option.bind_eq_some_iff.mp h
    have hstep := Step.of_step? hq
    have hcount := ih (hstep.cancelled_eq hcancelled) hrest
    rw [List.countP_cons]
    by_cases hown : b.isOwn = true
    · have hlt := hstep.rank_lt hcancelled hown
      rw [if_pos hown]
      omega
    · have hle := hstep.rank_le hcancelled
      rw [if_neg hown]
      omega

/-- **A vigil that is not over can take a step.** -/
theorem Sound.exists_step? (h : v.Sound workers m) (hended : v.ended = false) :
    ∃ b v', b.isOwn = true ∧ v.step? workers b = some v' := by
  by_cases hfinished : v.round.stage = .finished
  · cases hcancelled : v.cancelled with
    | true => exact ⟨.ended, _, rfl, by simp [step?, hfinished, hcancelled, hended]; rfl⟩
    | false => exact ⟨.begun, _, rfl, by simp [step?, hfinished, hcancelled]; rfl⟩
  · by_cases hopen : v.round.waiting = [] ∨ v.cleared = true
    · obtain ⟨a, r, hown, hr⟩ := h.traced_shift.orderly.exists_step? hfinished workers
      have hs := Shift.step?_eq hr
      by_cases ha : a = .launched
      · -- a target that is launched was waiting
        subst ha
        obtain ⟨id, hwaiting, -⟩ := (Round.Step.of_step? hr).exists_waiting_eq
        have hcleared : v.cleared = true := hopen.resolve_left (by simp [hwaiting])
        exact ⟨.within .launched, _, rfl, by simp only [step?]; rw [if_pos hcleared, hs]; rfl⟩
      · have ha' : a ≠ .cancelled := by
          rintro rfl
          cases hown
        exact ⟨.within a, _, hown, by rw [step?_within ha ha', hs]; rfl⟩
    · cases hcancelled : v.cancelled with
      | true =>
        obtain ⟨r, hr⟩ := Round.exists_step?_cancelled (not_or.mp hopen).1 workers
        exact ⟨.decided, _, rfl, by
          simp only [step?]; rw [if_neg hopen, if_pos hcancelled, Shift.step?_eq hr]; rfl⟩
      | false =>
        exact ⟨.decided, _, rfl, by
          simp only [step?]; rw [if_neg hopen, if_neg (by simp [hcancelled])]⟩

/-! ### Vigils that are cancelled -/

/-- The cancellation of a vigil of the monitor `m` is heeded, whenever it comes. -/
structure Heeded (workers : Nat) (m : Monitor) (moves : List VigilMove) (v : Vigil) : Prop where
  /-- The first round begins with that monitor, and each of the others with what the one before
  has left, -/
  linked : Shift.Linked m (v.past ++ [v.shift])
  /-- which is over by then. -/
  finished : ∀ s ∈ v.past, s.round.stage = .finished
  /-- Each round is thorough, even if it is cut short. -/
  thorough : ∀ s ∈ v.past ++ [v.shift], Round.run? workers s.monitor s.moves = some s.round ∧
    s.round.Thorough workers s.monitor s.moves
  /-- When it has been cancelled no round begins, -/
  past_eq : ∀ before after q, moves = before ++ .cancelled :: after →
    run? workers m before = some q → v.past = q.past
  /-- and only the probe of a target is launched that was waiting for a worker. -/
  launched_eq : ∀ before after q, moves = before ++ .cancelled :: after →
    run? workers m before = some q → v.round.launched = q.round.launched ∨
      q.cleared = true ∧ ∃ id, q.round.waiting.head? = some id ∧
        v.round.launched = q.round.launched ++ [id]
  /-- The vigil ends with a round, -/
  of_ended : v.ended = true → v.round.stage = .finished ∧ v.cancelled = true
  /-- and comes to that: until then it can take a step, -/
  progress : v.ended = false → ∃ b v', b.isOwn = true ∧ v.step? workers b = some v'
  /-- and takes a few of them at most when it has been cancelled, -/
  bounded : ∀ before after, moves = before ++ .cancelled :: after →
    after.countP VigilMove.isOwn ≤ 6 + 4 * v.round.launched.length
  /-- but for the end none if it is cancelled between two rounds. -/
  at_once : ∀ before after q, moves = before ++ .cancelled :: after →
    run? workers m before = some q → q.round.stage = .finished →
      after.countP VigilMove.isOwn ≤ 1

/-- What comes after the cancellation. -/
theorem exists_of_cancelled {before after : List VigilMove}
    (h : run? workers m (before ++ .cancelled :: after) = some v) :
    ∃ q, run? workers m before = some q ∧
      runFrom? workers q.cancel after = some v := by
  obtain ⟨q, q', hq, hstep, hrest⟩ := foldlM_append_cons_eq_some_iff.mp h
  obtain rfl := Option.some.inj hstep
  exact ⟨q, hq, hrest⟩

theorem since_of_runFrom? (hq : q.Sound workers m)
    (h : runFrom? workers q.cancel moves = some v) : q.Since v :=
  (foldlM_induction (P := fun v => v.Sound workers m ∧ q.Since v)
    ⟨hq.step .cancelled, since_cancelled q⟩
    (fun hv hstep => ⟨hv.1.step (.of_step? hstep), hv.2.step hv.1 (.of_step? hstep)⟩) h).2

/-- A vigil that is cancelled between two rounds only comes to its end. -/
theorem Sound.countP_isOwn_le_one (hq : q.Sound workers m) (hfinished : q.round.stage = .finished)
    (h : runFrom? workers q.cancel moves = some v) :
    moves.countP VigilMove.isOwn ≤ 1 := by
  have hlaunched : v.round.launched = q.round.launched := by
    rcases (since_of_runFrom? hq h).launched with ⟨hsame, -⟩ | ⟨-, hcleared, -⟩
    · exact hsame
    · exact absurd (Round.waiting_of_finished hfinished) (hq.waiting_ne hcleared)
  have hrank := hq.le_rank_of_finished hfinished
  have hcount := countP_isOwn_add_rank_le rfl h
  rw [rank_cancel] at hcount
  have hle := v.rank_le
  rw [hlaunched] at hle
  omega

/-- **Every cancellation is heeded.** -/
theorem heeded_run (hm : m.Reachable) (h : run? workers m moves = some v) :
    v.Heeded workers m moves := by
  have hsound := sound_run hm h
  have hsince : ∀ before after q, moves = before ++ .cancelled :: after →
      run? workers m before = some q → q.Since v := by
    rintro before after q rfl hq
    obtain ⟨q', hq', hrest⟩ := exists_of_cancelled h
    obtain rfl := Option.some.inj (hq.symm.trans hq')
    exact since_of_runFrom? (sound_run hm hq) hrest
  exact
    { linked := hsound.linked
      finished := hsound.finished
      thorough := fun s hs => by
        obtain ⟨hreachable, hrun⟩ := hsound.traced s hs
        exact ⟨hrun, Round.thorough_run hreachable hrun⟩
      past_eq := fun before after q hmoves hq => (hsince before after q hmoves hq).past_eq
      launched_eq := fun before after q hmoves hq =>
        (hsince before after q hmoves hq).launched.imp And.left And.right
      of_ended := hsound.of_ended
      progress := hsound.exists_step?
      bounded := by
        rintro before after rfl
        obtain ⟨q, -, hrest⟩ := exists_of_cancelled h
        exact (Nat.le_of_add_right_le (countP_isOwn_add_rank_le rfl hrest)).trans v.rank_le
      at_once := by
        rintro before after q rfl hq hfinished
        obtain ⟨q', hq', hrest⟩ := exists_of_cancelled h
        obtain rfl := Option.some.inj (hq.symm.trans hq')
        exact (sound_run hm hq).countP_isOwn_le_one hfinished hrest }

end

end Vigil

end Uptime
