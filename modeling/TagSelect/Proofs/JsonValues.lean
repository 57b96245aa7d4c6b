import TagSelect.Json.Shape
import TagSelect.Proofs.JsonScalars

/-!
# Reading and passing over values

A value that nobody asks for is passed over as a whole, whatever brackets are open around it
(`WellFormed.passes`, by induction on the grammar). Its parts are elements or members : one lemma
about parts with commas between them serves arrays and objects (`skipFrom_listed`).

`Takes` says that a reader takes a value off the front of any text, and `Follows` that the members
of an object lead from one state to another. With these, a list is read as its elements
(`IsArray.takes`), an object leads where its members do (`objectBody_listed`), and a map is read as
its members in order (`IsObject.takes_map`).
-/

namespace TagSelect.Json

/-! ## What may follow a number -/

theorem numberEnds_cons {c : Char} (rest : List Char) (h : c = ',' ∨ c = ']' ∨ c = '}') :
    NumberEnds (c :: rest) := by
  intro d hd
  cases hd
  rcases h with rfl | rfl | rfl <;> decide

theorem NumberEnds.space_append {gap rest : List Char} (hrest : NumberEnds rest)
    (h : IsSpace gap) : NumberEnds (gap ++ rest) := by
  cases gap with
  | nil => exact hrest
  | cons c gap =>
    intro d hd
    cases hd
    rcases h c (List.mem_cons_self ..) with rfl | rfl | rfl | rfl <;> decide

/-! ## Steps of passing over -/

variable {stack : List Bracket} {phase : Phase}

theorem skipFrom_length_append (cs rest : List Char) :
    skipFrom stack phase cs.length (cs ++ rest) = skipFrom stack phase 0 rest := by
  induction cs with
  | nil => rfl
  | cons c cs ih => simpa [skipFrom] using ih

theorem skipFrom_space {gap : List Char} (h : IsSpace gap)
    (hopen : stack ≠ [] ∨ phase ≠ .after) (rest : List Char) :
    skipFrom stack phase 0 (gap ++ rest) = skipFrom stack phase 0 rest := by
  induction gap with
  | nil => rfl
  | cons c gap ih =>
    have hc : isGap c = true := h.isGap c (List.mem_cons_self ..)
    have hgo : ¬(stack = [] ∧ phase = .after) := by
      rintro ⟨hstack, hphase⟩
      exact hopen.elim (· hstack) (· hphase)
    have hrest := ih fun d hd => h d (List.mem_cons_of_mem c hd)
    simpa [skipFrom, hgo, hc] using hrest

/-- A character that is no gap leads where `advance` says. -/
theorem skipFrom_cons {stack' : List Bracket} {phase' : Phase} {skip : Nat} {c : Char}
    {cs : List Char} (hc : isGap c = false)
    (h : advance phase c cs stack = .ok (stack', phase', skip)) :
    skipFrom stack phase 0 (c :: cs) = skipFrom stack' phase' skip cs := by
  have hgo : ¬(stack = [] ∧ phase = .after) := by
    rintro ⟨rfl, rfl⟩
    cases h
  simp [skipFrom, hgo, hc, h]

/-! ## Parts in brackets -/

/-- The mark that opens a bracket. -/
def Bracket.opening : Bracket → Char
  | array => '['
  | object => '{'

/-- The mark that closes a bracket. -/
def Bracket.closing : Bracket → Char
  | array => ']'
  | object => '}'

/-- What the parts in a bracket are. -/
def Bracket.part : Bracket → Phase
  | array => .value
  | object => .name

/-- A part is passed over whatever is around it. -/
structure Passes (phase : Phase) (v : List Char) : Prop where
  head : ∃ c cs, v = c :: cs ∧ isGap c = false ∧ c ≠ ']' ∧ c ≠ '}'
  skip : ∀ stack rest, NumberEnds rest →
    skipFrom stack phase 0 (v ++ rest) = skipFrom stack .after 0 rest

theorem skipFrom_closing (b : Bracket) (hphase : phase = .first ∨ phase = .after)
    (rest : List Char) :
    skipFrom (b :: stack) phase 0 (b.closing :: rest) = skipFrom stack .after 0 rest := by
  have hgap : isGap b.closing = false := by cases b <;> rfl
  refine skipFrom_cons hgap ?_
  rcases hphase with rfl | rfl <;> cases b <;> rfl

theorem skipFrom_comma (b : Bracket) (rest : List Char) :
    skipFrom (b :: stack) .after 0 (',' :: rest) = skipFrom (b :: stack) b.part 0 rest := by
  refine skipFrom_cons rfl ?_
  cases b <;> rfl

/-- The first part in a bracket is like any other. -/
theorem Passes.skipFrom_first {b : Bracket} {v : List Char} (h : Passes b.part v)
    (rest : List Char) :
    skipFrom (b :: stack) .first 0 (v ++ rest) = skipFrom (b :: stack) b.part 0 (v ++ rest) := by
  obtain ⟨c, cs, rfl, hgap, harray, hobject⟩ := h.head
  cases b <;> simp [skipFrom, advance, Bracket.closedBy, Bracket.part, hgap, harray, hobject]

theorem numberEnds_closing (b : Bracket) (rest : List Char) : NumberEnds (b.closing :: rest) := by
  cases b
  · exact numberEnds_cons rest (.inr (.inl rfl))
  · exact numberEnds_cons rest (.inr (.inr rfl))

/-- Parts with commas between them are passed over with the bracket that closes them. -/
theorem skipFrom_listed_of_ne_nil {b : Bracket} {vs : List (List Char)} {cs : List Char}
    (h : Listed vs cs) (hvs : ∀ v ∈ vs, Passes b.part v) (hne : vs ≠ []) (rest : List Char) :
    skipFrom (b :: stack) b.part 0 (cs ++ b.closing :: rest) = skipFrom stack .after 0 rest := by
  have hopen : ∀ phase : Phase, b :: stack ≠ [] ∨ phase ≠ .after := fun _ => .inl (by simp)
  induction h with
  | none _ => exact absurd rfl hne
  | last hbefore hafter =>
    simp only [List.append_assoc]
    rw [skipFrom_space hbefore (hopen _),
      (hvs _ (List.mem_cons_self ..)).skip _ _ ((numberEnds_closing b rest).space_append hafter),
      skipFrom_space hafter (hopen _), skipFrom_closing b (.inr rfl)]
  | more hbefore hafter _ ih =>
    simp only [List.append_assoc, List.cons_append]
    rw [skipFrom_space hbefore (hopen _),
      (hvs _ (List.mem_cons_self ..)).skip _ _
        ((numberEnds_cons _ (.inl rfl)).space_append hafter),
      skipFrom_space hafter (hopen _), skipFrom_comma]
    exact ih (fun v hv => hvs v (List.mem_cons_of_mem _ hv)) (by simp)

theorem Listed.exists_first {v cs : List Char} {vs : List (List Char)} (h : Listed (v :: vs) cs) :
    ∃ gap rest, IsSpace gap ∧ cs = gap ++ (v ++ rest) := by
  cases h with
  | last hbefore _ => exact ⟨_, _, hbefore, rfl⟩
  | more hbefore _ _ => exact ⟨_, _, hbefore, rfl⟩

theorem skipFrom_listed {b : Bracket} {vs : List (List Char)} {cs : List Char}
    (h : Listed vs cs) (hvs : ∀ v ∈ vs, Passes b.part v) (rest : List Char) :
    skipFrom (b :: stack) .first 0 (cs ++ b.closing :: rest) = skipFrom stack .after 0 rest := by
  have hopen : ∀ phase : Phase, b :: stack ≠ [] ∨ phase ≠ .after := fun _ => .inl (by simp)
  cases vs with
  | nil =>
    cases h with
    | none hgap => rw [skipFrom_space hgap (hopen _), skipFrom_closing b (.inl rfl)]
  | cons v vs =>
    rw [← skipFrom_listed_of_ne_nil h hvs (by simp) rest]
    obtain ⟨gap, tail, hgap, rfl⟩ := h.exists_first
    simp only [List.append_assoc]
    rw [skipFrom_space hgap (hopen _), skipFrom_space hgap (hopen _),
      (hvs v (List.mem_cons_self ..)).skipFrom_first]

/-! ## Values -/

/-- A scalar is passed over if its length is known from its first character on. -/
theorem passes_scalar {c : Char} {cs : List Char} (hgap : isGap c = false)
    (hbracket : c ≠ '[' ∧ c ≠ '{' ∧ c ≠ ']' ∧ c ≠ '}')
    (h : ∀ rest, NumberEnds rest → skipScalar c (cs ++ rest) = .ok cs.length) :
    Passes .value (c :: cs) := by
  obtain ⟨harray, hobject, hclose⟩ := hbracket
  refine ⟨⟨c, cs, rfl, hgap, hclose⟩, fun stack rest hrest => ?_⟩
  have hadvance : advance .value c (cs ++ rest) stack = .ok (stack, .after, cs.length) := by
    simp [advance, beginValue, harray, hobject, h rest hrest, Except.map]
  rw [List.cons_append, skipFrom_cons hgap hadvance, skipFrom_length_append]

theorem IsNumber.passes {cs : List Char} (h : IsNumber cs) : Passes .value cs := by
  obtain ⟨c, ds, rfl, hc, hskip⟩ := skipScalar_number h
  rcases hc with rfl | hc
  · exact passes_scalar rfl (by decide) hskip
  · refine passes_scalar ?_ ⟨?_, ?_, ?_, ?_⟩ hskip
    · cases hgap : isGap c with
      | false => rfl
      | true =>
        simp only [isGap, Bool.or_eq_true, decide_eq_true_eq] at hgap
        rcases hgap with ((rfl | rfl) | rfl) | rfl <;> cases hc
    all_goals
      rintro rfl
      cases hc

theorem IsText.passes {cs : List Char} (h : IsText cs) : Passes .value ('"' :: (cs ++ ['"'])) := by
  refine passes_scalar rfl (by decide) fun rest _ => ?_
  simpa [skipScalar] using skipText_isText h rest

/-- Parts in brackets are a value. -/
theorem passes_bracket (b : Bracket) {vs : List (List Char)} {cs : List Char} (h : Listed vs cs)
    (hvs : ∀ v ∈ vs, Passes b.part v) : Passes .value (b.opening :: (cs ++ [b.closing])) := by
  have hgap : isGap b.opening = false := by cases b <;> rfl
  refine ⟨⟨_, _, rfl, hgap, by cases b <;> decide⟩, fun stack rest _ => ?_⟩
  have hadvance : advance .value b.opening (cs ++ b.closing :: rest) stack =
      .ok (b :: stack, .first, 0) := by
    cases b <;> rfl
  rw [List.cons_append, List.append_assoc, List.singleton_append, skipFrom_cons hgap hadvance,
    skipFrom_listed h hvs]

theorem IsMember.passes {name value cs : List Char} (h : IsMember name value cs)
    (hname : IsText name) (hvalue : Passes .value value) : Passes .name cs := by
  obtain @⟨before, after, hbefore, hafter⟩ := h
  refine ⟨⟨_, _, rfl, rfl, by decide⟩, fun stack rest hrest => ?_⟩
  have hadvance : ∀ cs, advance .name '"' (name ++ '"' :: cs) stack =
      .ok (stack, .colon, (name ++ ['"']).length) := by
    intro cs
    simp [advance, beginName, skipText_isText hname, Except.map]
  have hcolon : ∀ cs, skipFrom stack .colon 0 (':' :: cs) = skipFrom stack .value 0 cs :=
    fun cs => skipFrom_cons rfl rfl
  have hskip : ∀ cs, skipFrom stack .colon (name ++ ['"']).length (name ++ '"' :: cs) =
      skipFrom stack .colon 0 cs := by
    intro cs
    rw [← skipFrom_length_append (name ++ ['"']) cs, List.append_assoc, List.singleton_append]
  simp only [List.cons_append, List.append_assoc]
  rw [skipFrom_cons rfl (hadvance _), hskip, skipFrom_space hbefore (.inr (by decide)), hcolon,
    skipFrom_space hafter (.inr (by decide)), hvalue.skip _ _ hrest]

theorem exists_of_forall₂ {α β : Type} {R : α → β → Prop} {as : List α} {bs : List β}
    (h : List.Forall₂ R as bs) : ∀ b ∈ bs, ∃ a ∈ as, R a b := by
  induction h with
  | nil => simp
  | cons hab _ ih =>
    rintro b hb
    obtain rfl | hb := List.mem_cons.1 hb
    · exact ⟨_, List.mem_cons_self .., hab⟩
    · obtain ⟨a, ha, hR⟩ := ih b hb
      exact ⟨a, List.mem_cons_of_mem _ ha, hR⟩

/-- A value that nobody asks for is passed over. -/
theorem WellFormed.passes {v : List Char} (h : WellFormed v) : Passes .value v := by
  induction h with
  | null | true | false => exact passes_scalar rfl (by decide) fun _ _ => rfl
  | number h => exact h.passes
  | text h => exact h.passes
  | array h _ ih =>
    obtain ⟨h⟩ := h
    exact passes_bracket .array h ih
  | object h hnames _ ih =>
    obtain ⟨hparts, h⟩ := h
    refine passes_bracket .object h fun part hpart => ?_
    obtain ⟨m, hm, hpart⟩ := exists_of_forall₂ hparts part hpart
    exact hpart.passes (hnames m hm) (ih m hm)

theorem skipValue_wellFormed {gap v rest : List Char} (hgap : IsSpace gap) (hv : WellFormed v)
    (hrest : NumberEnds rest) : skipValue (gap ++ (v ++ rest)) = .ok rest := by
  rw [skipValue, skipFrom_space hgap (.inr (by decide)), hv.passes.skip _ _ hrest]
  cases rest <;> rfl

/-! ## Values that are read -/

variable {α ρ : Type}

/-- The reader takes the value off the front of any text. -/
structure Takes (read : Reader α) (v : List Char) (a : α) : Prop where
  head : ∃ c cs, v = c :: cs ∧ isGap c = false ∧ c ≠ ']'
  read_eq : ∀ gap rest, IsSpace gap → read (gap ++ (v ++ rest)) = .ok (a, rest)

theorem Takes.read_append {read : Reader α} {v : List Char} {a : α} (h : Takes read v a)
    (rest : List Char) : read (v ++ rest) = .ok (a, rest) :=
  h.read_eq [] rest .nil

theorem IsString.takes {s : String} {v : List Char} (h : IsString s v) : Takes text v s := by
  obtain ⟨h⟩ := h
  refine ⟨⟨_, _, rfl, rfl, by decide⟩, fun gap rest hgap => ?_⟩
  simpa [text, hgap, isGap] using textBody_spells h rest

theorem IsString.takes_choice {s : String} {v : List Char} {first second : String × α} {a : α}
    (h : IsString s v) (ha : choiceOf first second s = .ok a) :
    Takes (choice first second) v a := by
  obtain ⟨h⟩ := h
  refine ⟨⟨_, _, rfl, rfl, by decide⟩, fun gap rest hgap => ?_⟩
  simp [choice, hgap, isGap, choiceName, textBody_spells h, ha, bind, Except.bind,
    pure, Except.pure]

theorem takes_boolean (b : Bool) : Takes boolean (if b then "true" else "false").toList b := by
  refine ⟨by cases b <;> exact ⟨_, _, rfl, rfl, by decide⟩, fun gap rest hgap => ?_⟩
  cases b <;> simp [boolean, hgap, isGap, word, Except.map]

/-! ## Lists -/

/-- What stands in front of the parts that are left : nothing in front of the first one, and a
comma in front of the others. -/
inductive Lead : Bool → List Char → Prop
  | first : Lead true []
  | comma {gap : List Char} (h : IsSpace gap) : Lead false (gap ++ [','])

theorem nextElement_closing (first : Bool) {gap : List Char} (hgap : IsSpace gap)
    (rest : List Char) : nextElement first (gap ++ ']' :: rest) = .ok (.done rest) := by
  simp [nextElement, hgap, isGap]

theorem Lead.nextElement {first : Bool} {lead gap v : List Char} (h : Lead first lead)
    (hgap : IsSpace gap) (hv : ∃ c cs, v = c :: cs ∧ isGap c = false ∧ c ≠ ']')
    (rest : List Char) :
    nextElement first (lead ++ (gap ++ (v ++ rest))) = .ok (.element (v ++ rest)) := by
  obtain ⟨c, cs, rfl, hc, hclose⟩ := hv
  cases h with
  | first => simp [Json.nextElement, hgap, skipGap_cons hc]
  | comma h =>
    simp [Json.nextElement, h, hgap, skipGap_cons (c := ',') rfl, skipGap_cons hc, hclose]

theorem elements_closing (read : Reader α) {steps : Nat} (first : Bool) {gap : List Char}
    (hgap : IsSpace gap) (rest : List Char) :
    elements read (steps + 1) first (gap ++ ']' :: rest) = .ok ([], rest) := by
  simp [elements, nextElement_closing first hgap, bind, Except.bind, pure, Except.pure]

/-- An element is read in front of what the elements after it give. -/
theorem elements_cons {read : Reader α} {steps : Nat} {first : Bool}
    {lead gap v rest rest' : List Char} {a : α} {as : List α} (hlead : Lead first lead)
    (hgap : IsSpace gap) (ha : Takes read v a)
    (has : elements read steps false rest = .ok (as, rest')) :
    elements read (steps + 1) first (lead ++ (gap ++ (v ++ rest))) = .ok (a :: as, rest') := by
  simp [elements, hlead.nextElement hgap ha.head, ha.read_append, has, bind, Except.bind, pure,
    Except.pure]

theorem elements_listed_of_ne_nil {read : Reader α} {vs : List (List Char)} {cs : List Char}
    {as : List α} {steps : Nat} {first : Bool} {lead : List Char} (h : Listed vs cs)
    (has : List.Forall₂ (Takes read) vs as) (hne : vs ≠ []) (hlead : Lead first lead)
    (hsteps : vs.length < steps) (rest : List Char) :
    elements read steps first (lead ++ (cs ++ ']' :: rest)) = .ok (as, rest) := by
  obtain ⟨steps, rfl⟩ : ∃ n, steps = n + 1 := ⟨steps - 1, by omega⟩
  induction h generalizing as steps first lead with
  | none _ => exact absurd rfl hne
  | last hbefore hafter =>
    obtain - | ⟨ha, - | _⟩ := has
    obtain ⟨steps, rfl⟩ : ∃ n, steps = n + 1 := ⟨steps - 1, by simp at hsteps; omega⟩
    simp only [List.append_assoc]
    exact elements_cons hlead hbefore ha (elements_closing read false hafter rest)
  | @more before part after next cs parts hbefore hafter _ ih =>
    obtain - | ⟨ha, has⟩ := has
    obtain ⟨steps, rfl⟩ : ∃ n, steps = n + 1 := ⟨steps - 1, by simp at hsteps; omega⟩
    have hrest := ih has (by simp) (.comma hafter) steps (Nat.lt_of_succ_lt_succ hsteps)
    simp only [List.append_assoc, List.cons_append, List.nil_append] at hrest ⊢
    exact elements_cons hlead hbefore ha hrest

theorem elements_listed {read : Reader α} {vs : List (List Char)} {cs : List Char} {as : List α}
    {steps : Nat} (h : Listed vs cs) (has : List.Forall₂ (Takes read) vs as)
    (hsteps : vs.length < steps) (rest : List Char) :
    elements read steps true (cs ++ ']' :: rest) = .ok (as, rest) := by
  cases vs with
  | nil =>
    cases h with
    | none hgap =>
      cases has
      obtain ⟨steps, rfl⟩ : ∃ n, steps = n + 1 := ⟨steps - 1, by omega⟩
      exact elements_closing read true hgap rest
  | cons v vs => exact elements_listed_of_ne_nil h has (by simp) .first hsteps rest

/-- A text has at least as many characters as parts. -/
theorem Listed.length_le {vs : List (List Char)} {cs : List Char} (h : Listed vs cs)
    (hvs : ∀ v ∈ vs, v ≠ []) : vs.length ≤ cs.length := by
  induction h with
  | none _ => exact Nat.zero_le _
  | last _ _ =>
    have hpart := List.length_pos_iff.2 (hvs _ (List.mem_cons_self ..))
    simp only [List.length_append, List.length_singleton]
    omega
  | more _ _ _ ih =>
    have hrest := ih fun v hv => hvs v (List.mem_cons_of_mem _ hv)
    simp only [List.length_append, List.length_cons] at hrest ⊢
    omega

/-- A list is read as its elements. -/
theorem IsArray.takes {read : Reader α} {vs : List (List Char)} {v : List Char} {as : List α}
    (h : IsArray vs v) (has : List.Forall₂ (Takes read) vs as) : Takes (list read) v as := by
  obtain @⟨cs, h⟩ := h
  refine ⟨⟨_, _, rfl, rfl, by decide⟩, fun gap rest hgap => ?_⟩
  have hvs : ∀ v ∈ vs, v ≠ [] := by
    intro v hv
    obtain ⟨a, -, ha⟩ := exists_of_forall₂ has.flip v hv
    obtain ⟨c, cs, rfl, -⟩ := ha.head
    simp
  have hsteps : vs.length < (cs ++ ']' :: rest).length + 1 := by
    have hle := h.length_le hvs
    rw [List.length_append]
    omega
  simpa [list, hgap, isGap] using elements_listed h has hsteps rest

/-! ## Objects -/

theorem colon_append {gap : List Char} (hgap : IsSpace gap) (rest : List Char) :
    colon (gap ++ ':' :: rest) = .ok rest := by
  simp [colon, hgap, isGap]

/-- The members of an object lead from one state to another. -/
inductive Follows (member : ρ → String → Reader ρ) : ρ → List (String × List Char) → ρ → Prop
  | nil (r : ρ) : Follows member r [] r
  | cons {r r' r'' : ρ} {name : String} {value : List Char} {ms : List (String × List Char)}
      (hstep : ∀ before after rest, IsSpace before → IsSpace after → NumberEnds rest →
        member r name (before ++ ':' :: (after ++ (value ++ rest))) = .ok (r', rest))
      (h : Follows member r' ms r'') : Follows member r ((name, value) :: ms) r''

theorem nextMember_closing (first : Bool) {gap : List Char} (hgap : IsSpace gap)
    (rest : List Char) : nextMember first (gap ++ '}' :: rest) = .ok (.done rest) := by
  simp [nextMember, hgap, isGap]

theorem Lead.nextMember {first : Bool} {lead gap : List Char} (h : Lead first lead)
    (hgap : IsSpace gap) (rest : List Char) :
    nextMember first (lead ++ (gap ++ '"' :: rest)) = .ok (.name rest) := by
  cases h with
  | first => simp [Json.nextMember, hgap, isGap]
  | comma h => simp [Json.nextMember, h, hgap, isGap]

theorem members_closing (member : ρ → String → Reader ρ) {steps : Nat} (first : Bool) (r : ρ)
    {gap : List Char} (hgap : IsSpace gap) (rest : List Char) :
    members member (steps + 1) first r (gap ++ '}' :: rest) = .ok (r, rest) := by
  simp [members, nextMember_closing first hgap, bind, Except.bind, pure, Except.pure]

/-- A member is read, and those after it go on from what it gives. -/
theorem members_cons {member : ρ → String → Reader ρ} {steps : Nat} {first : Bool} {r r' : ρ}
    {lead gap spelled value part rest : List Char} {name : String} (hlead : Lead first lead)
    (hgap : IsSpace gap) (hname : Spells spelled name.toList)
    (hpart : IsMember spelled value part) (hrest : NumberEnds rest)
    (hstep : ∀ before after rest, IsSpace before → IsSpace after → NumberEnds rest →
      member r name (before ++ ':' :: (after ++ (value ++ rest))) = .ok (r', rest)) :
    members member (steps + 1) first r (lead ++ (gap ++ (part ++ rest))) =
      members member steps false r' rest := by
  obtain ⟨hbefore, hafter⟩ := hpart
  have hmember := hstep _ _ rest hbefore hafter hrest
  simp [members, hlead.nextMember hgap, textBody_spells hname, hmember, bind, Except.bind]

theorem members_listed_of_ne_nil {member : ρ → String → Reader ρ} {parts : List (List Char)}
    {ms : List (String × List Char)} {spelled : List (List Char × List Char)} {cs : List Char}
    {r r' : ρ} {steps : Nat} {first : Bool} {lead : List Char} (h : Listed parts cs)
    (hparts : List.Forall₂ (fun m part => IsMember m.1 m.2 part) spelled parts)
    (hspelled : List.Forall₂ (fun m m' => Spells m'.1 m.1.toList ∧ m'.2 = m.2) ms spelled)
    (hms : Follows member r ms r') (hne : parts ≠ []) (hlead : Lead first lead)
    (hsteps : parts.length < steps) (rest : List Char) :
    members member steps first r (lead ++ (cs ++ '}' :: rest)) = .ok (r', rest) := by
  obtain ⟨steps, rfl⟩ : ∃ n, steps = n + 1 := ⟨steps - 1, by omega⟩
  induction h generalizing ms spelled r steps first lead with
  | none _ => exact absurd rfl hne
  | last hbefore hafter =>
    obtain - | ⟨hpart, - | _⟩ := hparts
    obtain - | ⟨⟨hname, hvalue⟩, - | _⟩ := hspelled
    obtain - | ⟨hstep, hms⟩ := hms
    cases hms
    rw [hvalue] at hpart
    obtain ⟨steps, rfl⟩ : ∃ n, steps = n + 1 := ⟨steps - 1, by simp at hsteps; omega⟩
    have hends := (numberEnds_cons rest (c := '}') (.inr (.inr rfl))).space_append hafter
    simp only [List.append_assoc]
    rw [members_cons hlead hbefore hname hpart hends hstep]
    exact members_closing member false r' hafter rest
  | @more before part after next cs parts hbefore hafter _ ih =>
    obtain - | ⟨hpart, hparts⟩ := hparts
    obtain - | ⟨⟨hname, hvalue⟩, hspelled⟩ := hspelled
    obtain - | ⟨hstep, hms⟩ := hms
    rw [hvalue] at hpart
    obtain ⟨steps, rfl⟩ : ∃ n, steps = n + 1 := ⟨steps - 1, by simp at hsteps; omega⟩
    have hrest := ih hparts hspelled hms (by simp) (.comma hafter) steps
      (Nat.lt_of_succ_lt_succ hsteps)
    have hends := (numberEnds_cons (cs ++ '}' :: rest) (c := ',') (.inl rfl)).space_append hafter
    simp only [List.append_assoc, List.cons_append, List.nil_append] at hrest ⊢
    rw [members_cons hlead hbefore hname hpart hends hstep, hrest]

/-- An object leads where its members do. -/
theorem objectBody_listed {member : ρ → String → Reader ρ} {parts : List (List Char)}
    {ms : List (String × List Char)} {spelled : List (List Char × List Char)} {cs : List Char}
    {r r' : ρ} (h : Listed parts cs)
    (hparts : List.Forall₂ (fun m part => IsMember m.1 m.2 part) spelled parts)
    (hspelled : List.Forall₂ (fun m m' => Spells m'.1 m.1.toList ∧ m'.2 = m.2) ms spelled)
    (hms : Follows member r ms r') (rest : List Char) :
    objectBody member r (cs ++ '}' :: rest) = .ok (r', rest) := by
  unfold objectBody
  cases parts with
  | nil =>
    cases h with
    | none hgap =>
      cases hparts
      cases hspelled
      cases hms
      exact members_closing member true r hgap rest
  | cons part parts =>
    have hnonempty : ∀ v ∈ part :: parts, v ≠ [] := by
      intro v hv
      obtain ⟨m, -, hm⟩ := exists_of_forall₂ hparts v hv
      cases hm
      simp
    have hsteps : (part :: parts).length < (cs ++ '}' :: rest).length + 1 := by
      have hle := h.length_le hnonempty
      rw [List.length_append]
      omega
    exact members_listed_of_ne_nil h hparts hspelled hms (by simp) .first hsteps rest

/-- The members of a map are collected in front of those before them. -/
theorem exists_follows_mapMember {read : Reader α} {ms : List (String × α)}
    {spelled : List (List Char × List Char)}
    (h : List.Forall₂ (fun m m' => Spells m'.1 m.1.toList ∧ Takes read m'.2 m.2) ms spelled) :
    ∃ texts : List (String × List Char),
      List.Forall₂ (fun m m' => Spells m'.1 m.1.toList ∧ m'.2 = m.2) texts spelled ∧
        ∀ before, Follows (mapMember read) before texts (ms.reverse ++ before) := by
  induction h with
  | nil => exact ⟨[], .nil, fun before => .nil before⟩
  | @cons m m' ms spelled hm _ ih =>
    obtain ⟨name, a⟩ := m
    obtain ⟨texts, htexts, hfollows⟩ := ih
    refine ⟨(name, m'.2) :: texts, .cons ⟨hm.1, rfl⟩ htexts, fun before => ?_⟩
    have hrest : Follows (mapMember read) ((name, a) :: before) texts
        (((name, a) :: ms).reverse ++ before) := by
      simpa using hfollows ((name, a) :: before)
    refine .cons (fun gap gap' rest hgap hgap' _ => ?_) hrest
    simp [mapMember, colon_append hgap, hm.2.read_eq gap' rest hgap', bind, Except.bind, pure,
      Except.pure]

/-- A map is read as its members in their order. -/
theorem IsObject.takes_map {read : Reader α} {ms : List (String × α)}
    {spelled : List (List Char × List Char)} {v : List Char} (h : IsObject spelled v)
    (hms : List.Forall₂ (fun m m' => Spells m'.1 m.1.toList ∧ Takes read m'.2 m.2) ms spelled) :
    Takes (map read) v ms := by
  obtain ⟨texts, htexts, hfollows⟩ := exists_follows_mapMember hms
  obtain ⟨hparts, h⟩ := h
  refine ⟨⟨_, _, rfl, rfl, by decide⟩, fun gap rest hgap => ?_⟩
  have hbody := objectBody_listed h hparts htexts (hfollows []) rest
  simp [map, hgap, isGap, hbody, bind, Except.bind, pure, Except.pure]

end TagSelect.Json
