/-!
# Leaving items out

A run takes items one after the other, and something is seen of each.  Items that leave
the state of the run as it is, as far as the others can tell, can be left out without any
change to what is seen of the others.
-/

namespace Tabletop

/-! ## Marks -/

/-- The items of a list except those that are marked with false; items without a mark
stay. -/
def retain : List Bool → List α → List α
  | true :: marks, item :: items => item :: retain marks items
  | false :: marks, _ :: items => retain marks items
  | _, items => items

@[simp] theorem retain_nil (marks : List Bool) :
    retain marks ([] : List α) = [] := by
  cases marks with
  | nil => rfl
  | cons mark marks => cases mark <;> rfl

@[simp] theorem retain_no_marks (items : List α) : retain [] items = items := by
  cases items <;> rfl

theorem retain_cons (marks : List Bool) (item : α) (items : List α) :
    retain marks (item :: items) =
      if marks.headD true then item :: retain marks.tail items
      else retain marks.tail items := by
  cases marks with
  | nil => simp
  | cons mark marks => cases mark <;> rfl

/-- Marks that are given by a test retain the items that pass it. -/
theorem retain_map_eq_filter (test : α → Bool) (items : List α) :
    retain (items.map test) items = items.filter test := by
  induction items with
  | nil => rfl
  | cons item items inductionHypothesis =>
      rw [retain_cons, List.filter_cons, ← inductionHypothesis]
      rfl

/-- The marks leave out only items that are not needed. -/
def Spares (needed : α → Prop) (marks : List Bool) (items : List α) : Prop :=
  ∀ (position : Nat) (item : α),
    marks[position]? = some false → items[position]? = some item → ¬ needed item

namespace Spares

variable {needed : α → Prop} {marks : List Bool} {item : α} {items : List α}

theorem head
    (spares : Spares needed marks (item :: items))
    (leftOut : marks.headD true = false) :
    ¬ needed item := by
  cases marks with
  | nil => contradiction
  | cons mark marks => exact spares 0 item (congrArg some leftOut) rfl

theorem tail
    (spares : Spares needed marks (item :: items)) :
    Spares needed marks.tail items := by
  intro position other marked present
  rw [List.getElem?_tail] at marked
  exact spares (position + 1) other marked present

/-- Marks that are given by a test which every needed item passes. -/
theorem of_test
    {test : α → Bool}
    (passes : ∀ item, needed item → test item = true)
    (items : List α) :
    Spares needed (items.map test) items := by
  intro position item marked present isNeeded
  rw [List.getElem?_map, present, Option.map_some, passes item isNeeded] at marked
  contradiction

end Spares

/-! ## Runs -/

/-- What is seen of items that are taken one after the other. -/
def sightings
    (sight : State → Item → Sight)
    (next : State → Item → State) : State → List Item → List Sight
  | _, [] => []
  | state, item :: items =>
      sight state item :: sightings sight next (next state item) items

/-- States that are alike show the same of items with the same key and stay alike, and an
item that is not needed leaves a state alike. -/
structure Unwinds
    (sight : State → Item → Sight)
    (next : State → Item → State)
    (alike : State → State → Prop)
    (key : Item → Key)
    (needed : Item → Prop) : Prop where
  shows : ∀ {left right : State} {item other : Item},
    alike left right → key item = key other → sight left item = sight right other
  stays : ∀ {left right : State} {item other : Item},
    alike left right → key item = key other → alike (next left item) (next right other)
  skips : ∀ {left right : State} {item : Item},
    alike left right → ¬ needed item → alike (next left item) right

/-- Leaving out items that are not needed changes nothing about what is seen of the
others, from any state that is alike. -/
theorem Unwinds.sightings_retain
    {sight : State → Item → Sight}
    {next : State → Item → State}
    {alike : State → State → Prop}
    {key : Item → Key}
    {needed : Item → Prop}
    (unwinds : Unwinds sight next alike key needed)
    {left right : State}
    {marks : List Bool}
    {items others : List Item}
    (same : alike left right)
    (spares : Spares needed marks items)
    (kept : others.map key = (retain marks items).map key) :
    sightings sight next right others =
      retain marks (sightings sight next left items) := by
  induction items generalizing left right marks others with
  | nil =>
      rw [retain_nil, List.map_nil, List.map_eq_nil_iff] at kept
      rw [kept, sightings, sightings, retain_nil]
  | cons item items inductionHypothesis =>
      rw [sightings, retain_cons]
      rw [retain_cons] at kept
      cases keeps : marks.headD true with
      | true =>
          rw [if_pos keeps, List.map_cons, List.map_eq_cons_iff] at kept
          obtain ⟨other, rest, rfl, sameFirst, sameRest⟩ := kept
          rw [if_pos rfl, sightings, unwinds.shows same sameFirst.symm,
            inductionHypothesis (unwinds.stays same sameFirst.symm) spares.tail sameRest]
      | false =>
          rw [keeps, if_neg Bool.false_ne_true] at kept
          rw [if_neg Bool.false_ne_true]
          exact inductionHypothesis (unwinds.skips same (spares.head keeps)) spares.tail kept

end Tabletop
