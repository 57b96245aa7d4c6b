import TagSelect.Filter.Machine
import TagSelect.Token.Lexer

/-!
# The counter of levels

The parser takes a level for each `!`, each `(` and each operator, gives levels back in three ways,
and keeps what it has taken when it fails. The machine of `TagSelect.Filter.Machine` has the same
levels as a number, and the calls that will give them back as frames.

A state is balanced (`Machine.Balanced`) if the levels that are taken are those from before the call
and those that the frames and what comes next will give back. A call begins balanced, and a step
keeps the balance (`Machine.Balanced.step`), so that there is always enough to give back. A failure
only drops frames, and their levels stay taken.

The machine is the parser : every call ends where the parser does (`Machine.ends_enter`), which goes
by the recursion of the parser over the levels that are left, for any calls that are pending below.
`level_counter_sound` puts both together for all calls of a parser in turn.
-/

namespace TagSelect

open TagSelect.Filter

/-! ## The parser -/

theorem Outcome.bind_assoc {σ α β γ : Type} (o : Outcome σ α) (f : α → Cursor σ → Outcome σ β)
    (g : β → Cursor σ → Outcome σ γ) : (o.bind f).bind g = o.bind fun a c => (f a c).bind g := by
  cases o <;> rfl

theorem Outcome.bind_done {σ α : Type} (o : Outcome σ α) : o.bind .done = o := by
  cases o <;> rfl

/-- What takes no levels leaves them as they are when it fails. -/
theorem Cursor.levels_of_expect_failed {σ : Type} [Token.Source σ] {c c' : Cursor σ}
    {kind : Token.Kind} {expected : Expected} {n levels : Nat} {e : SyntaxError}
    (h : c.expect kind expected n = .failed e c' levels) : levels = n := by
  unfold Cursor.expect at h
  split at h
  · cases h
  · cases h
    rfl

theorem Cursor.levels_of_tagName_failed {σ : Type} [Token.Source σ] {c c' : Cursor σ}
    {n levels : Nat} {e : SyntaxError} (h : c.tagName n = .failed e c' levels) : levels = n := by
  unfold Cursor.tagName at h
  cases hkey : c.expect .identifier .identifier n with
  | failed e c₁ l =>
    rw [hkey] at h
    cases h
    exact levels_of_expect_failed hkey
  | done key c₁ =>
    simp only [hkey, Outcome.bind] at h
    split at h
    · cases hvalue : c₁.advance.expect .identifier .metaValue n with
      | done value c₂ => simp [hvalue] at h
      | failed e c₂ l =>
        simp only [hvalue] at h
        cases h
        exact levels_of_expect_failed hvalue
    · cases h

/-- What is no negation and no group is a tag name. -/
theorem Cursor.unary_eq_tagName {σ : Type} [Token.Source σ] {c : Cursor σ} (n : Nat)
    (hnot : c.current.kind ≠ .not) (hgroup : c.current.kind ≠ .leftParen) :
    c.unary n = c.tagName n := by
  cases n with
  | zero => simp [Cursor.unary, hnot, hgroup]
  | succ n => simp [Cursor.unary, hnot, hgroup]

/-- A group is a phrase in parentheses. -/
theorem Cursor.unary_leftParen {σ : Type} [Token.Source σ] {c : Cursor σ} (n : Nat)
    (hk : c.current.kind = .leftParen) : c.unary (n + 1) =
      (c.advance.binary n).bind fun f c =>
        (c.expect .rightParen .closingParenthesis n).bind fun _ c => .done f c := by
  rw [Cursor.binary, Outcome.bind_assoc]
  simp only [Cursor.unary, hk]

namespace Machine

variable {σ α : Type}

/-! ## Levels and who holds them -/

/-- The levels that a pending call gives back. -/
def Frame.taken : Frame → Nat
  | input => 0
  | first => 0
  | operand _ _ taken => taken
  | negation => 1
  | group => 1

/-- The levels that what comes next gives back. -/
def Control.taken : Control → Nat
  | chain _ taken => taken
  | _ => 0

/-- The levels that pending calls give back. -/
def held : List Frame → Nat
  | [] => 0
  | frame :: frames => frame.taken + held frames

theorem held_append : ∀ frames frames' : List Frame,
    held (frames ++ frames') = held frames + held frames'
  | [], frames' => (Nat.zero_add _).symm
  | frame :: frames, frames' => by
    rw [List.cons_append, held, held, held_append frames, Nat.add_assoc]

/-- The levels that are taken are `base` levels from before the call and those that will be given
back. After a failure some of the latter may have been lost. -/
structure Balanced (base : Nat) (m : Machine σ) : Prop where
  depth_le : m.depth ≤ maxLevels
  no_underflow : m.control ≠ .underflow
  held_le : base + held m.frames ≤ m.depth
  depth_eq : (∀ e, m.control ≠ .failed e) → m.depth = base + held m.frames + m.control.taken

namespace Balanced

variable {base taken : Nat} {m : Machine σ} {frame : Frame} {f : Filter}

theorem of_eq (hle : m.depth ≤ maxLevels) (hcontrol : m.control ≠ .underflow)
    (h : m.depth = base + held m.frames + m.control.taken) : Balanced base m :=
  ⟨hle, hcontrol, h ▸ Nat.le_add_right _ _, fun _ => h⟩

theorem of_failed {e : SyntaxError} (hle : m.depth ≤ maxLevels) (hcontrol : m.control = .failed e)
    (h : base + held m.frames ≤ m.depth) : Balanced base m :=
  ⟨hle, by simp [hcontrol], h, fun hno => absurd hcontrol (hno e)⟩

/-- A call begins with the levels from before it. -/
theorem call (r : Routine) (c : Cursor σ) {depth : Nat} (h : depth ≤ maxLevels) :
    Balanced depth (Machine.call r c depth) :=
  of_eq h Control.noConfusion rfl

/-- There are enough levels to give back what is held. -/
theorem release (hle : m.depth ≤ maxLevels) (h : m.depth = base + held m.frames + taken) :
    Balanced base (m.release taken f) := by
  rw [Machine.release, if_pos (by omega)]
  refine of_eq ?_ Control.noConfusion ?_
  · simp only
    omega
  · simp only [Control.taken]
    omega

/-- A step of the parser that takes no levels changes none. -/
theorem follow {o : Outcome σ α} {next : α → Machine σ → Machine σ} (hle : m.depth ≤ maxLevels)
    (h : base + held m.frames ≤ m.depth)
    (hnext : ∀ a c, Balanced base (next a { m with cursor := c })) :
    Balanced base (m.follow o next) := by
  cases o with
  | done a c => exact hnext a c
  | failed e c levels => exact of_failed hle rfl h

variable [Token.Source σ]

/-- A level is taken where the frame that waits for the call holds one more. -/
theorem descend (hle : m.depth ≤ maxLevels) (h : m.depth = base + held m.frames + taken)
    (hframe : frame.taken = taken + 1) (r : Routine) : Balanced base (m.descend frame r) := by
  rw [Machine.descend]
  split
  · next hlt =>
    refine of_eq hlt Control.noConfusion ?_
    simp only [held, hframe, Control.taken]
    omega
  · refine of_failed hle rfl ?_
    simp only
    omega

/-! ## Steps and runs -/

theorem enter (hle : m.depth ≤ maxLevels) (h : m.depth = base + held m.frames) :
    ∀ r : Routine, Balanced base (m.enter r)
  | .filter => by
    rw [Machine.enter]
    split
    · exact of_eq hle Control.noConfusion h
    · refine of_eq hle Control.noConfusion ?_
      simpa [held, Frame.taken, Control.taken] using h
  | .binary => by
    rw [Machine.enter]
    refine of_eq hle Control.noConfusion ?_
    simpa [held, Frame.taken, Control.taken] using h
  | .unary => by
    rw [Machine.enter]
    split
    · exact descend hle h rfl _
    · exact of_eq hle Control.noConfusion h
  | .primary => by
    rw [Machine.enter]
    split
    · exact descend hle h rfl _
    · exact follow hle (Nat.le_of_eq h.symm) fun f c => of_eq hle Control.noConfusion h

theorem extend {left : Filter} (hle : m.depth ≤ maxLevels)
    (h : m.depth = base + held m.frames + taken) : Balanced base (m.extend left taken) := by
  rw [Machine.extend]
  split
  · exact descend hle h rfl _
  · exact release hle h

theorem resume (hle : m.depth ≤ maxLevels) :
    ∀ {frame : Frame}, m.depth = base + held m.frames + frame.taken →
      Balanced base (m.resume f frame)
  | .input, h => by
    rw [Machine.resume]
    exact follow hle (Nat.le_of_eq h.symm) fun _ c => of_eq hle Control.noConfusion h
  | .first, h => of_eq hle Control.noConfusion h
  | .operand _ _ _, h => of_eq hle Control.noConfusion h
  | .negation, h => release hle h
  | .group, h => by
    rw [Machine.resume]
    exact follow hle (h ▸ Nat.le_add_right _ _) fun _ c => release hle h

/-- A step keeps the balance. -/
theorem step (h : Balanced base m) : Balanced base m.step := by
  obtain ⟨control, frames, cursor, depth⟩ := m
  have hle := h.depth_le
  cases control with
  | enter r => exact enter hle (h.depth_eq fun _ => Control.noConfusion) r
  | chain left taken => exact extend hle (h.depth_eq fun _ => Control.noConfusion)
  | leave f =>
    have heq := h.depth_eq fun _ => Control.noConfusion
    cases frames with
    | nil => exact h
    | cons frame frames =>
      have hframe : depth = base + held frames + frame.taken := by
        simp only [held, Control.taken] at heq
        omega
      exact resume (m := ⟨.leave f, frames, cursor, depth⟩) hle hframe
  | failed e => exact h
  | underflow => exact h

/-- So does a run. -/
theorem run : ∀ (n : Nat) {m : Machine σ}, Balanced base m → Balanced base (m.run n)
  | 0, _, h => h
  | n + 1, _, h => run n h.step

end Balanced

/-! ## The machine and the parser -/

theorem levels_eq {control : Control} {frames : List Frame} {c : Cursor σ} {depth n : Nat}
    (h : depth + n = maxLevels) : levels ⟨control, frames, c, depth⟩ = n := by
  simp only [levels]
  omega

section Agreement

variable [Token.Source σ] {m m' : Machine σ} {frames frames' : List Frame} {depth depth' : Nat}
  {o : Outcome σ Filter}

theorem run_add : ∀ (n k : Nat) (m : Machine σ), m.run (n + k) = (m.run n).run k
  | 0, k, m => by rw [Nat.zero_add, run]
  | n + 1, k, m => by rw [Nat.succ_add, run, run, run_add n k]

theorem Ends.of_run {n : Nat} (hrun : m.run n = m') (h : Ends m' frames depth o) :
    Ends m frames depth o := by
  subst hrun
  cases o with
  | done f c =>
    obtain ⟨k, hk⟩ := h
    exact ⟨n + k, by rw [run_add, hk]⟩
  | failed e c levels =>
    obtain ⟨hle, k, hk⟩ := h
    exact ⟨hle, n + k, by simpa only [run_add] using hk⟩

theorem Ends.of_step (hstep : m.step = m') (h : Ends m' frames depth o) : Ends m frames depth o :=
  h.of_run (n := 1) hstep

/-- Two steps of the parser in turn. -/
theorem Ends.bind {k : Filter → Cursor σ → Outcome σ Filter} (h : Ends m frames depth o)
    (hframes : frames' <:+ frames)
    (hk : ∀ f c, Ends ⟨.leave f, frames, c, depth⟩ frames' depth' (k f c)) :
    Ends m frames' depth' (o.bind k) := by
  cases o with
  | done f c =>
    obtain ⟨n, hn⟩ := h
    exact (hk f c).of_run hn
  | failed e c levels =>
    obtain ⟨hle, n, pending, hpending, hn⟩ := h
    exact ⟨hle, n, pending, hframes.trans hpending, hn⟩

theorem descend_of_lt (h : m.depth < maxLevels) (frame : Frame) (r : Routine) :
    m.descend frame r = ⟨.enter r, frame :: m.frames, m.cursor.advance, m.depth + 1⟩ :=
  if_pos h

/-- No level is taken past the greatest number. -/
theorem ends_descend (hm : m.depth = maxLevels) (frame : Frame) (r : Routine) :
    Ends (m.descend frame r) m.frames depth
      (.failed (.tooDeep m.cursor.current) m.cursor.advance 0) := by
  refine ⟨Nat.zero_le _, 0, m.frames, List.suffix_refl _, ?_⟩
  rw [run, descend, if_neg (by omega), hm, Nat.sub_zero]

/-- A step of the parser that takes no levels. -/
theorem ends_follow {α : Type} {o : Outcome σ α} {next : α → Machine σ → Machine σ}
    {k : α → Cursor σ → Outcome σ Filter} (hm : m.depth ≤ maxLevels)
    (ho : ∀ e c levels, o = .failed e c levels → levels = m.levels)
    (hk : ∀ a c, Ends (next a { m with cursor := c }) m.frames depth (k a c)) :
    Ends (m.follow o next) m.frames depth (o.bind k) := by
  cases o with
  | done a c => exact hk a c
  | failed e c levels =>
    obtain rfl := ho e c levels rfl
    refine ⟨Nat.sub_le _ _, 0, m.frames, List.suffix_refl _, ?_⟩
    rw [levels, Nat.sub_sub_self hm]
    rfl

-- As the parser does, the induction goes over the levels that are left : one is taken for what a
-- negation, a group or an operator calls, and with the same levels a phrase calls an operand.
mutual

/-- The machine reads an operand as the parser does. -/
theorem ends_unary : ∀ (n : Nat) {c : Cursor σ} {depth : Nat} (frames : List Frame),
    depth + n = maxLevels → Ends ⟨.enter .unary, frames, c, depth⟩ frames depth (c.unary n)
  | n, c, depth, frames, hn => by
    by_cases hk : c.current.kind = .not
    · have hstep : step ⟨.enter .unary, frames, c, depth⟩ =
          descend ⟨.enter .unary, frames, c, depth⟩ .negation .unary := by
        simp [step, enter, hk]
      refine .of_step hstep ?_
      cases n with
      | zero => simpa [Cursor.unary, hk] using ends_descend hn .negation .unary
      | succ n =>
        have hlevels : depth + 1 + n = maxLevels := by omega
        have hlt : depth < maxLevels := by omega
        rw [descend_of_lt hlt]
        simp only [Cursor.unary, hk]
        refine (ends_unary n (.negation :: frames) hlevels).bind (List.suffix_cons _ _)
          fun f c' => ?_
        have hresume : step ⟨.leave f, .negation :: frames, c', depth + 1⟩ =
            ⟨.leave f.not, frames, c', depth⟩ := by
          simp [step, resume, release]
        exact .of_step hresume ⟨0, rfl⟩
    · have hstep :
          step ⟨.enter .unary, frames, c, depth⟩ = ⟨.enter .primary, frames, c, depth⟩ := by
        simp [step, enter, hk]
      exact .of_step hstep (ends_primary n frames hn hk)
termination_by n => (n, 1)

/-- The machine reads an operand that is no negation as the parser does. -/
theorem ends_primary : ∀ (n : Nat) {c : Cursor σ} {depth : Nat} (frames : List Frame),
    depth + n = maxLevels → c.current.kind ≠ .not →
    Ends ⟨.enter .primary, frames, c, depth⟩ frames depth (c.unary n)
  | n, c, depth, frames, hn, hnot => by
    by_cases hk : c.current.kind = .leftParen
    · have hstep : step ⟨.enter .primary, frames, c, depth⟩ =
          descend ⟨.enter .primary, frames, c, depth⟩ .group .binary := by
        simp [step, enter, hk]
      refine .of_step hstep ?_
      cases n with
      | zero => simpa [Cursor.unary, hk] using ends_descend hn .group .binary
      | succ n =>
        have hlevels : depth + 1 + n = maxLevels := by omega
        have hlt : depth < maxLevels := by omega
        rw [descend_of_lt hlt, Cursor.unary_leftParen n hk]
        refine (ends_binary n (.group :: frames) hlevels).bind (List.suffix_cons _ _) fun f c' => ?_
        have hleft : levels ⟨.leave f, frames, c', depth + 1⟩ = n := levels_eq hlevels
        have hresume : step ⟨.leave f, .group :: frames, c', depth + 1⟩ =
            follow ⟨.leave f, frames, c', depth + 1⟩
              (c'.expect .rightParen .closingParenthesis n) fun _ m => m.release 1 f := by
          simp [step, resume, hleft]
        refine .of_step hresume (ends_follow hlt ?_ fun _ c'' => ?_)
        · intro e c'' levels h
          rw [Cursor.levels_of_expect_failed h, hleft]
        · exact ⟨0, by simp [run, release]⟩
    · have hleft : levels ⟨.enter .primary, frames, c, depth⟩ = n := levels_eq hn
      have hstep : step ⟨.enter .primary, frames, c, depth⟩ =
          follow ⟨.enter .primary, frames, c, depth⟩ (c.tagName n)
            fun f m => { m with control := .leave f } := by
        simp [step, enter, hk, hleft]
      have hle : depth ≤ maxLevels := by omega
      rw [Cursor.unary_eq_tagName n hnot hk, ← (c.tagName n).bind_done]
      refine .of_step hstep (ends_follow hle ?_ fun f c' => ⟨0, rfl⟩)
      intro e c' levels h
      rw [Cursor.levels_of_tagName_failed h, hleft]
termination_by n => (n, 0)

/-- The machine reads a chain as the parser does, and gives back what the chain has taken. -/
theorem ends_chain : ∀ (n : Nat) {c : Cursor σ} {depth taken : Nat} (frames : List Frame)
    (left : Filter), depth + n = maxLevels → taken ≤ depth →
    Ends ⟨.chain left taken, frames, c, depth⟩ frames (depth - taken) (c.chain n left)
  | n, c, depth, taken, frames, left, hn, htaken => by
    cases hop : Operator.ofKind? c.current.kind with
    | none =>
      have hstep : step ⟨.chain left taken, frames, c, depth⟩ =
          ⟨.leave left, frames, c, depth - taken⟩ := by
        simp [step, extend, hop, release, htaken]
      rw [Cursor.chain_of_none hop]
      exact .of_step hstep ⟨0, rfl⟩
    | some op =>
      have hstep : step ⟨.chain left taken, frames, c, depth⟩ =
          descend ⟨.chain left taken, frames, c, depth⟩ (.operand op left (taken + 1)) .unary := by
        simp [step, extend, hop]
      refine .of_step hstep ?_
      cases n with
      | zero =>
        simpa [Cursor.chain, hop] using ends_descend hn (.operand op left (taken + 1)) .unary
      | succ n =>
        have hlevels : depth + 1 + n = maxLevels := by omega
        have hlt : depth < maxLevels := by omega
        rw [descend_of_lt hlt, Cursor.chain_of_operator hop]
        refine (ends_unary n (.operand op left (taken + 1) :: frames) hlevels).bind
          (List.suffix_cons _ _) fun right c' => ?_
        have hrest := ends_chain n (c := c') frames (op.join left right) hlevels
          (Nat.succ_le_succ htaken)
        rw [Nat.add_sub_add_right] at hrest
        exact .of_step rfl hrest
termination_by n => (n, 0)

/-- The machine reads a phrase as the parser does. -/
theorem ends_binary : ∀ (n : Nat) {c : Cursor σ} {depth : Nat} (frames : List Frame),
    depth + n = maxLevels → Ends ⟨.enter .binary, frames, c, depth⟩ frames depth (c.binary n)
  | n, c, depth, frames, hn => by
    refine .of_step rfl ((ends_unary n (.first :: frames) hn).bind (List.suffix_cons _ _)
      fun f c' => ?_)
    exact .of_step rfl (ends_chain n frames f hn (Nat.zero_le _))
termination_by n => (n, 2)

end

/-- The machine reads a filter as the parser does. -/
theorem ends_filter (n : Nat) {c : Cursor σ} {depth : Nat} (frames : List Frame)
    (hn : depth + n = maxLevels) :
    Ends ⟨.enter .filter, frames, c, depth⟩ frames depth (c.filter n) := by
  rw [Cursor.filter]
  split
  · next hk => exact .of_step (by simp [step, enter, hk]) ⟨0, rfl⟩
  · next hk =>
    have hle : depth ≤ maxLevels := by omega
    have hstep : step ⟨.enter .filter, frames, c, depth⟩ =
        ⟨.enter .binary, .input :: frames, c, depth⟩ := by
      simp [step, enter, hk]
    refine .of_step hstep ((ends_binary n (.input :: frames) hn).bind (List.suffix_cons _ _)
      fun f c' => ?_)
    have hleft : levels ⟨.leave f, frames, c', depth⟩ = n := levels_eq hn
    have hresume : step ⟨.leave f, .input :: frames, c', depth⟩ =
        follow ⟨.leave f, frames, c', depth⟩ (c'.expect .eof .endOfInput n)
          fun _ m => { m with control := .leave f } := by
      simp [step, resume, hleft]
    refine .of_step hresume (ends_follow hle ?_ fun _ c'' => ⟨0, rfl⟩)
    intro e c'' levels h
    rw [Cursor.levels_of_expect_failed h, hleft]

/-- Every call ends as what the parser does for it. -/
theorem ends_enter {m : Machine σ} {n : Nat} (hn : m.depth + n = maxLevels) :
    ∀ {r : Routine}, m.control = .enter r → (r = .primary → m.cursor.current.kind ≠ .not) →
      Ends m m.frames m.depth (r.outcome m.cursor n) := by
  obtain ⟨control, frames, c, depth⟩ := m
  rintro r rfl hprimary
  cases r with
  | filter => exact ends_filter n frames hn
  | binary => exact ends_binary n frames hn
  | unary => exact ends_unary n frames hn
  | primary => exact ends_primary n frames hn (hprimary rfl)

end Agreement

/-! ## Reachable states -/

section Reachable

variable {s : σ} {m : Machine σ} {frame : Frame} {f : Filter} {r : Routine} {n : Nat}

theorem release_ne_enter (taken : Nat) (r : Routine) : (m.release taken f).control ≠ .enter r := by
  rw [release]
  split <;> exact Control.noConfusion

theorem follow_ne_enter {o : Outcome σ α} {next : α → Machine σ → Machine σ}
    (hnext : ∀ a c, (next a { m with cursor := c }).control ≠ .enter r) :
    (m.follow o next).control ≠ .enter r := by
  cases o with
  | done a c => exact hnext a c
  | failed e c levels => exact Control.noConfusion

variable [Token.Source σ]

theorem descend_ne_primary (hr : r ≠ .primary) :
    (m.descend frame r).control ≠ .enter .primary := by
  rw [descend]
  split
  · simpa using hr
  · exact Control.noConfusion

theorem extend_ne_primary (left : Filter) (taken : Nat) :
    (m.extend left taken).control ≠ .enter .primary := by
  rw [extend]
  split
  · exact descend_ne_primary Routine.noConfusion
  · exact release_ne_enter taken _

theorem resume_ne_enter (r : Routine) : ∀ frame : Frame, (m.resume f frame).control ≠ .enter r
  | .input => by
    rw [resume]
    exact follow_ne_enter fun _ _ => Control.noConfusion
  | .first => Control.noConfusion
  | .operand _ _ _ => Control.noConfusion
  | .negation => release_ne_enter 1 r
  | .group => by
    rw [resume]
    exact follow_ne_enter fun _ _ => release_ne_enter 1 r

/-- An operand that is no negation is called for only where no `!` stands. -/
theorem kind_of_enter_eq_primary (h : (m.enter r).control = .enter .primary) :
    (m.enter r).cursor.current.kind ≠ .not := by
  cases r with
  | filter =>
    rw [enter] at h
    split at h <;> cases h
  | binary => cases h
  | unary =>
    rw [enter] at h ⊢
    split at h
    · exact absurd h (descend_ne_primary Routine.noConfusion)
    · next hk => rwa [if_neg hk]
  | primary =>
    rw [enter] at h
    split at h
    · exact absurd h (descend_ne_primary Routine.noConfusion)
    · exact absurd h (follow_ne_enter fun _ _ => Control.noConfusion)

theorem kind_of_step_eq_primary (h : m.step.control = .enter .primary) :
    m.step.cursor.current.kind ≠ .not := by
  obtain ⟨control, frames, c, depth⟩ := m
  cases control with
  | enter r => exact kind_of_enter_eq_primary h
  | chain left taken => exact absurd h (extend_ne_primary left taken)
  | leave f =>
    cases frames with
    | nil => cases h
    | cons frame frames => exact absurd h (resume_ne_enter _ frame)
  | failed e => cases h
  | underflow => cases h

theorem Reachable.kind_of_primary (h : Reachable s m) (hm : m.control = .enter .primary) :
    m.cursor.current.kind ≠ .not := by
  cases h with
  | start => cases hm
  | step h => exact kind_of_step_eq_primary hm
  | again h hended => cases hm

theorem Reachable.run : ∀ (n : Nat) {m : Machine σ}, Reachable s m → Reachable s (m.run n)
  | 0, _, h => h
  | n + 1, _, h => run n h.step

/-- Every reachable state is balanced over the levels that the calls before have lost. -/
theorem Reachable.exists_balanced (h : Reachable s m) : ∃ base, Balanced base m := by
  induction h with
  | start => exact ⟨0, .call _ _ (Nat.zero_le _)⟩
  | step _ ih =>
    obtain ⟨base, hbase⟩ := ih
    exact ⟨base, hbase.step⟩
  | again _ _ ih =>
    obtain ⟨_, hbase⟩ := ih
    exact ⟨_, .call _ _ hbase.depth_le⟩

/-- A call that ends with a filter leaves the levels as they were. -/
theorem Balanced.depth_of_leave {base : Nat} (h : Balanced base m) (hm : m.control = .enter r)
    (hrun : (m.run n).control = .leave f) (hframes : (m.run n).frames = m.frames) :
    (m.run n).depth = m.depth := by
  have hbefore := h.depth_eq (by simp [hm])
  have hafter := (h.run n).depth_eq (by simp [hrun])
  rw [hframes] at hafter
  simp only [hm, hrun, Control.taken] at hbefore hafter
  rw [hbefore, hafter]

/-- A call that fails gives back no more than it has taken. -/
theorem Balanced.le_depth_of_suffix {base : Nat} (h : Balanced base m) (hm : m.control = .enter r)
    (hframes : m.frames <:+ (m.run n).frames) : m.depth ≤ (m.run n).depth := by
  obtain ⟨pending, hpending⟩ := hframes
  have hbefore := h.depth_eq (by simp [hm])
  have hafter := (h.run n).held_le
  rw [← hpending, held_append] at hafter
  simp only [hm, Control.taken] at hbefore
  omega

/-! ## Calls of a parser -/

/-- The machine answers as the parser does, and ends at its place with its levels. -/
theorem answers_parse {p : Parser σ} (hp : p.levels ≤ maxLevels) :
    p.parse.2.levels ≤ maxLevels ∧
      ∃ n m, (call .filter p.cursor p.depth).run n = m ∧ m.Answers p.parse.1 ∧
        m.cursor = p.parse.2.cursor ∧ m.depth = p.parse.2.depth := by
  have hends := ends_filter p.levels (c := p.cursor) [] (Nat.sub_add_cancel hp)
  rw [Parser.parse]
  cases hfilter : p.cursor.filter p.levels with
  | done f c =>
    rw [hfilter] at hends
    obtain ⟨n, hn⟩ := hends
    exact ⟨hp, n, _, hn, .ok rfl rfl, rfl, rfl⟩
  | failed e c levels =>
    rw [hfilter] at hends
    obtain ⟨hle, n, frames, -, hn⟩ := hends
    exact ⟨hle, n, _, hn, .error rfl, rfl, rfl⟩

theorem le_depth_parse {p : Parser σ} (hp : p.levels ≤ maxLevels) : p.depth ≤ p.parse.2.depth := by
  obtain ⟨-, n, m, rfl, -, -, hdepth⟩ := answers_parse hp
  have hcall : Balanced p.depth (call .filter p.cursor p.depth) := .call _ _ (Nat.sub_le _ _)
  rw [← hdepth]
  exact Nat.le_trans (Nat.le_add_right _ _) (hcall.run n).held_le

theorem depth_parse_of_ok {p : Parser σ} (h : p.parse.1 = .ok f) : p.parse.2.depth = p.depth := by
  rw [Parser.parse] at h ⊢
  split at h
  · rfl
  · cases h

/-- The calls of a parser are calls of the machine that reads from the same tokens. -/
theorem reachable_after : ∀ (k : Nat) {p : Parser σ}, p.levels ≤ maxLevels →
    Reachable s (call .filter p.cursor p.depth) →
    (p.after k).levels ≤ maxLevels ∧
      Reachable s (call .filter (p.after k).cursor (p.after k).depth)
  | 0, _, hp, h => ⟨hp, h⟩
  | k + 1, p, hp, h => by
    obtain ⟨hle, n, m, rfl, hanswers, hcursor, hdepth⟩ := answers_parse hp
    have hnext := (h.run n).again hanswers
    rw [hcursor, hdepth] at hnext
    exact reachable_after k hle hnext

end Reachable

end Machine

theorem Parser.after_succ {σ : Type} [Token.Source σ] : ∀ (k : Nat) (p : Parser σ),
    p.after (k + 1) = (p.after k).parse.2
  | 0, _ => rfl
  | k + 1, p => after_succ k p.parse.2

open Machine in
/-- The counter of levels over all calls of a parser. In every reachable state at most 256 levels
are taken, and never are more given back than are taken. Every call, of a filter or of a part of
one, does what the parser does, leaves the levels as they were if it succeeds, and if it fails
leaves as many as there were or more. The calls of the parser are calls of the machine, and do not
end with fewer levels taken than they begin with. -/
theorem level_counter_sound {σ : Type} [Token.Source σ] (s : σ) :
    (∀ m : Machine σ, Reachable s m → m.depth ≤ 256 ∧ m.control ≠ .underflow) ∧
    (∀ (m : Machine σ) (r : Routine), Reachable s m → m.control = .enter r →
      Ends m m.frames m.depth (r.outcome m.cursor (256 - m.depth)) ∧
      ∀ n,
        (∀ f, (m.run n).control = .leave f → (m.run n).frames = m.frames →
          (m.run n).depth = m.depth) ∧
        (∀ e, (m.run n).control = .failed e → m.frames <:+ (m.run n).frames →
          m.depth ≤ (m.run n).depth ∧ (m.run n).depth ≤ 256)) ∧
    ∀ k,
      let p := (Parser.ofSource s).after k
      let q := (Parser.ofSource s).after (k + 1)
      p.depth + p.levels = 256 ∧ Reachable s (call .filter p.cursor p.depth) ∧
      (∃ n m, (call .filter p.cursor p.depth).run n = m ∧ m.Answers p.parse.1 ∧
        m.cursor = q.cursor ∧ m.depth = q.depth) ∧
      (∀ f, p.parse.1 = .ok f → q.depth = p.depth) ∧
      p.depth ≤ q.depth ∧ q.depth ≤ 256 := by
  refine ⟨fun m hm => ?_, fun m r hm hr => ?_, fun k => ?_⟩
  · obtain ⟨base, hbase⟩ := hm.exists_balanced
    exact ⟨hbase.depth_le, hbase.no_underflow⟩
  · obtain ⟨base, hbase⟩ := hm.exists_balanced
    refine ⟨ends_enter (Nat.add_sub_of_le hbase.depth_le) hr ?_, fun n => ⟨?_, ?_⟩⟩
    · rintro rfl
      exact hm.kind_of_primary hr
    · intro f hrun hframes
      exact hbase.depth_of_leave hr hrun hframes
    · intro e hrun hframes
      exact ⟨hbase.le_depth_of_suffix hr hframes, (hbase.run n).depth_le⟩
  · obtain ⟨hle, hreach⟩ := reachable_after (s := s) k (p := .ofSource s) (Nat.le_refl _) .start
    obtain ⟨-, hrun⟩ := answers_parse hle
    rw [Parser.after_succ]
    exact ⟨Nat.sub_add_cancel hle, hreach, hrun, fun f => depth_parse_of_ok, le_depth_parse hle,
      Nat.sub_le _ _⟩

/-- Two groups that are not closed. -/
def openGroups : Lexer :=
  .ofString "((a"

open Machine in
/-- The call for what stands in the first group begins with one level taken and fails with two. The
next call of the parser, at the end of the text, succeeds and leaves two levels taken. -/
theorem level_counter_open_groups :
    let first : Machine Lexer := (call .filter (.ofSource openGroups) 0).run 4
    let p := (Parser.ofSource openGroups).after 1
    let second := call .filter p.cursor p.depth
    let unclosed := SyntaxError.unexpected .closingParenthesis ⟨.eof, "", ⟨3, 3⟩⟩
    (Reachable openGroups first ∧ first.control = .enter .binary ∧ first.depth = 1 ∧
      (first.run 9).control = .failed unclosed ∧ first.frames <:+ (first.run 9).frames ∧
      first.depth ≤ (first.run 9).depth ∧ (first.run 9).depth ≤ 256) ∧
    (Reachable openGroups second ∧ second.control = .enter .filter ∧ second.depth = 2 ∧
      (second.run 1).control = .leave .everything ∧ (second.run 1).frames = second.frames ∧
      (second.run 1).depth = second.depth) := by
  intro first p second unclosed
  obtain ⟨-, hcalls, hparser⟩ := level_counter_sound openGroups
  have hfirst : Reachable openGroups first := Reachable.start.run 4
  have hbinary : first.control = .enter .binary := by decide +kernel
  have hfailed : (first.run 9).control = .failed unclosed := by decide +kernel
  have hpending : first.frames <:+ (first.run 9).frames := ⟨[.first], by decide +kernel⟩
  have hsecond : Reachable openGroups second := (hparser 1).2.1
  have hleave : (second.run 1).control = .leave .everything := by decide +kernel
  have hframes : (second.run 1).frames = second.frames := by decide +kernel
  exact ⟨⟨hfirst, hbinary, by decide +kernel, hfailed, hpending,
      ((hcalls first .binary hfirst hbinary).2 9).2 unclosed hfailed hpending⟩,
    hsecond, rfl, by decide +kernel, hleave, hframes,
      ((hcalls second .filter hsecond rfl).2 1).1 .everything hleave hframes⟩

end TagSelect
