/-!
# Loops over positions

A loop is given by what one turn does in each state: it goes on with another state, it ends, or it
looks at a place where nothing stands.  That a loop ends with a result says two things at once: the
turns come to an end, and none of them has looked outside.

A loop is taken apart by a property that holds in front of every turn, by what is known of its
result, and by an order in which the states descend.  One turn has to be looked at for all three,
and all turns follow by induction.  Where each state settles the result, the loop ends with it.
-/

namespace FilePaths

variable {State Result Value : Type}

/-- What is left from a position on starts with the value that stands there. -/
theorem drop_of_getElem?
    {values : List Value}
    {position : Nat}
    {value : Value}
    (isHere : values[position]? = some value) :
    values.drop position = value :: values.drop (position + 1) := by
  obtain ⟨inside, isValue⟩ := List.getElem?_eq_some_iff.1 isHere
  rw [List.drop_eq_getElem_cons inside, isValue]

/-- What a turn of a loop comes to. -/
inductive Turn (State Result : Type)
  /-- The loop goes on with a state. -/
  | goesOn (state : State)
  /-- The loop ends with a result. -/
  | ends (result : Result)
  /-- The loop has looked at a place where nothing stands. -/
  | strays
  deriving DecidableEq, Repr

/-- Looks at the value at a position, where there must be one. -/
def Turn.look
    (values : List Value)
    (position : Nat)
    (next : Value → Turn State Result) :
    Turn State Result :=
  match values[position]? with
  | some value => next value
  | none => .strays

theorem Turn.look_of_getElem?
    {values : List Value}
    {position : Nat}
    {value : Value}
    (isHere : values[position]? = some value)
    (next : Value → Turn State Result) :
    look values position next = next value := by
  rw [look, isHere]

/-- A loop, as what a turn does in each state. -/
abbrev Loop (State Result : Type) :=
  State → Turn State Result

namespace Loop

/-- Behind a turn the loop ends with a result, and no turn looks outside. -/
inductive EndsWith (loop : Loop State Result) : Turn State Result → Result → Prop
  | ends (result : Result) : EndsWith loop (.ends result) result
  | goesOn
      {state : State}
      {result : Result}
      (behind : EndsWith loop (loop state) result) :
      EndsWith loop (.goesOn state) result

/-- Behind a turn the loop comes to a state. -/
inductive Meets (loop : Loop State Result) : Turn State Result → State → Prop
  | here (state : State) : Meets loop (.goesOn state) state
  | later
      {state other : State}
      (behind : Meets loop (loop state) other) :
      Meets loop (.goesOn state) other

/-- A loop ends with one result at most. -/
theorem EndsWith.unique
    {loop : Loop State Result}
    {turn : Turn State Result}
    {result other : Result}
    (isEnd : EndsWith loop turn result)
    (isOther : EndsWith loop turn other) :
    result = other := by
  induction isEnd with
  | ends =>
      cases isOther
      rfl
  | goesOn _ ih =>
      cases isOther with
      | goesOn behind => exact ih behind

/-- Behind a state that a loop comes to stands what its turn goes on with. -/
theorem Meets.next
    {loop : Loop State Result}
    {turn : Turn State Result}
    {state next : State}
    (meets : Meets loop turn state)
    (isNext : loop state = .goesOn next) :
    Meets loop turn next := by
  induction meets with
  | here =>
      apply later
      rw [isNext]
      exact .here next
  | later _ ih => exact later (ih isNext)

/-- A turn in a state ends with a result of a kind, or it goes on with a lesser state that has the
property. -/
inductive Leads
    (property : State → Prop)
    (less : State → State → Prop)
    (kind : Result → Prop)
    (state : State) :
    Turn State Result → Prop
  | ends
      {result : Result}
      (isKind : kind result) :
      Leads property less kind state (.ends result)
  | goesOn
      {next : State}
      (holds : property next)
      (isLess : less next state) :
      Leads property less kind state (.goesOn next)

/-- What a turn leads to has all that is known of it, and it descends in one of the orders. -/
theorem Leads.and
    {property other : State → Prop}
    {less less' : State → State → Prop}
    {kind kind' : Result → Prop}
    {state : State}
    {turn : Turn State Result}
    (leads : Leads property less kind state turn)
    (leads' : Leads other less' kind' state turn) :
    Leads (fun next => property next ∧ other next) less (fun result => kind result ∧ kind' result)
      state turn := by
  cases leads with
  | ends isKind =>
      cases leads' with
      | ends isKind' => exact .ends ⟨isKind, isKind'⟩
  | goesOn holds isLess =>
      cases leads' with
      | goesOn holds' => exact .goesOn ⟨holds, holds'⟩ isLess

/-- A turn in a state ends with the result that is settled there, or it goes on with a lesser state
that has the property and in which the same result is settled. -/
inductive Keeps
    (property : State → Prop)
    (less : State → State → Prop)
    (settled : State → Result)
    (state : State) :
    Turn State Result → Prop
  | ends
      {result : Result}
      (isSettled : result = settled state) :
      Keeps property less settled state (.ends result)
  | goesOn
      {next : State}
      (holds : property next)
      (isLess : less next state)
      (isSettled : settled next = settled state) :
      Keeps property less settled state (.goesOn next)

theorem Keeps.leads
    {property : State → Prop}
    {less : State → State → Prop}
    {settled : State → Result}
    {state : State}
    {turn : Turn State Result}
    (keeps : Keeps property less settled state turn) :
    Leads (fun next => property next ∧ settled next = settled state) less (· = settled state) state
      turn := by
  cases keeps with
  | ends isSettled => exact .ends isSettled
  | goesOn holds isLess isSettled => exact .goesOn ⟨holds, isSettled⟩ isLess

/-- What a state is known to keep, another one keeps that a step within the turn leads from. -/
theorem Keeps.of_step
    {property : State → Prop}
    {less : State → State → Prop}
    {settled : State → Result}
    {state before : State}
    {turn : Turn State Result}
    (keeps : Keeps property less settled state turn)
    (isTransitive : ∀ {next}, less next state → less state before → less next before)
    (isStep : state = before ∨ less state before)
    (same : settled state = settled before) :
    Keeps property less settled before turn := by
  cases keeps with
  | ends isSettled => exact .ends (isSettled.trans same)
  | goesOn holds isLess isSettled =>
      refine .goesOn holds ?_ (isSettled.trans same)
      rcases isStep with rfl | isLater
      · exact isLess
      · exact isTransitive isLess isLater

/-- A first turn ends with the result, or it goes on with a state that has the property and in which
the result is settled. -/
inductive Settles
    (property : State → Prop)
    (settled : State → Result) :
    Turn State Result → Result → Prop
  | ends (result : Result) : Settles property settled (.ends result) result
  | goesOn
      {state : State}
      {result : Result}
      (holds : property state)
      (isSettled : settled state = result) :
      Settles property settled (.goesOn state) result

section

variable
  {loop : Loop State Result}
  {property : State → Prop}
  {less : State → State → Prop}

section

variable
  {kind : Result → Prop}
  (leads : ∀ state, property state → Leads property less kind state (loop state))

include leads

/-- A loop whose states descend ends. -/
theorem exists_endsWith_of_leads
    (isWellFounded : WellFounded less)
    {state : State}
    (holds : property state) :
    ∃ result, kind result ∧ EndsWith loop (.goesOn state) result := by
  induction state using isWellFounded.induction with
  | _ state ih =>
      cases turn_eq : loop state with
      | ends result =>
          cases turn_eq ▸ leads state holds with
          | ends isKind =>
              refine ⟨result, isKind, .goesOn ?_⟩
              rw [turn_eq]
              exact .ends result
      | goesOn next =>
          cases turn_eq ▸ leads state holds with
          | goesOn stillHolds isLess =>
              obtain ⟨result, isKind, isEnd⟩ := ih next isLess stillHolds
              refine ⟨result, isKind, .goesOn ?_⟩
              rwa [turn_eq]
      | strays => cases turn_eq ▸ leads state holds

/-- What holds in the first state, and is kept by every turn, holds in all states. -/
theorem forall_meets_of_leads
    {state other : State}
    (holds : property state)
    (meets : Meets loop (.goesOn state) other) :
    property other := by
  generalize turn_eq : Turn.goesOn state = turn at meets
  induction meets generalizing state with
  | here =>
      cases turn_eq
      exact holds
  | @later before _ behind ih =>
      cases turn_eq
      cases next_eq : loop before with
      | goesOn next =>
          cases next_eq ▸ leads before holds with
          | goesOn stillHolds => exact ih stillHolds next_eq.symm
      | ends result =>
          rw [next_eq] at behind
          cases behind
      | strays =>
          rw [next_eq] at behind
          cases behind

end

variable
  {settled : State → Result}
  (keeps : ∀ state, property state → Keeps property less settled state (loop state))

include keeps

/-- A loop whose states descend ends with the result that is settled in its first state. -/
theorem endsWith_of_keeps
    (isWellFounded : WellFounded less)
    {state : State}
    (holds : property state) :
    EndsWith loop (.goesOn state) (settled state) := by
  have leads : ∀ other, property other ∧ settled other = settled state →
      Leads (fun next => property next ∧ settled next = settled state) less (· = settled state)
        other (loop other) := by
    rintro other ⟨holds, same⟩
    rw [← same]
    exact (keeps other holds).leads
  obtain ⟨_, rfl, isEnd⟩ := exists_endsWith_of_leads leads isWellFounded ⟨holds, rfl⟩
  exact isEnd

theorem forall_meets_of_keeps
    {state other : State}
    (holds : property state)
    (meets : Meets loop (.goesOn state) other) :
    property other := by
  have leads : ∀ before, property before →
      Leads property less (fun _ => True) before (loop before) := fun before holds => by
    generalize turn_eq : loop before = turn
    cases turn_eq ▸ keeps before holds with
    | ends => exact .ends trivial
    | goesOn stillHolds isLess => exact .goesOn stillHolds isLess
  exact forall_meets_of_leads leads holds meets

variable
  {turn : Turn State Result}
  {result : Result}

theorem endsWith_of_settles
    (isWellFounded : WellFounded less)
    (settles : Settles property settled turn result) :
    EndsWith loop turn result := by
  cases settles with
  | ends => exact .ends _
  | goesOn holds isSettled =>
      rw [← isSettled]
      exact endsWith_of_keeps keeps isWellFounded holds

theorem forall_meets_of_settles
    {other : State}
    (settles : Settles property settled turn result)
    (meets : Meets loop turn other) :
    property other := by
  cases settles with
  | ends => cases meets
  | goesOn holds _ => exact forall_meets_of_keeps keeps holds meets

end

end Loop
end FilePaths
