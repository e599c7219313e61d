/-
This file proves that writing a document only observes it: a text depends on the shapes that have
been added, and not on earlier texts or on the steps that added the shapes.
-/

import QuadrantChart.Proofs.Diagram.Serialization

namespace QuadrantChart

namespace Document

/-- The answer to writing a document between the earlier and the later steps of a run. -/
def Writes (document : Document) (earlier later : List Step) (text : Text) : Prop :=
  (document.run (earlier ++ .write :: later)).2[earlier.length]? = some (.text text)

def Answer.IsFault (answer : Answer) : Prop :=
  ∃ fault, answer = .fault fault

theorem run_cons (document : Document) (step : Step) (steps : List Step) :
    document.run (step :: steps) =
      (((document.perform step).1.run steps).1,
        (document.perform step).2 :: ((document.perform step).1.run steps).2) :=
  rfl

theorem run_append (document : Document) (earlier later : List Step) :
    document.run (earlier ++ later) =
      (((document.run earlier).1.run later).1,
        (document.run earlier).2 ++ ((document.run earlier).1.run later).2) := by
  induction earlier generalizing document with
  | nil => rfl
  | cons step earlier inductionHypothesis =>
    rw [List.cons_append, run_cons, inductionHypothesis, run_cons]
    rfl

theorem answers_length (document : Document) (steps : List Step) :
    (document.run steps).2.length = steps.length := by
  induction steps generalizing document with
  | nil => rfl
  | cons step steps inductionHypothesis =>
    rw [run_cons, List.length_cons, inductionHypothesis, List.length_cons]

/-- The text that a run answers shows the shapes that its earlier steps have added. -/
theorem Shows.writes {document : Document} {stamp : Text} (shows : document.Shows stamp [])
    (earlier later : List Step) :
    document.Writes earlier later (drawing stamp (earlier.flatMap Step.added)) := by
  have text := (shows.run earlier).write_text
  rw [Writes, run_append, ← answers_length document earlier,
    List.getElem?_append_right (Nat.le_refl _), Nat.sub_self, run_cons, List.getElem?_cons_zero]
  exact congrArg (fun text => some (Answer.text text)) text

/-- Without a fault, every shape of a run can be written. -/
theorem run_writable (document : Document) (steps : List Step)
    (noFault : ∀ answer ∈ (document.run steps).2, ¬answer.IsFault) :
    ∀ step ∈ steps, ∀ shape ∈ step.shapes, shape.Writable := by
  induction steps generalizing document with
  | nil =>
    intro step member
    cases member
  | cons step steps inductionHypothesis =>
    rw [run_cons] at noFault
    obtain ⟨first, others⟩ := List.forall_mem_cons.1 noFault
    refine List.forall_mem_cons.2 ⟨?_, inductionHypothesis _ others⟩
    rcases document.perform_fault step with ⟨writable, -⟩ | ⟨-, fault⟩
    · exact writable
    · exact absurd ⟨_, fault⟩ first

theorem added_writable (steps : List Step)
    (writable : ∀ step ∈ steps, ∀ shape ∈ step.shapes, shape.Writable) :
    steps.flatMap Step.added = steps.flatMap Step.shapes := by
  induction steps with
  | nil => rfl
  | cons step steps inductionHypothesis =>
    obtain ⟨first, others⟩ := List.forall_mem_cons.1 writable
    rw [List.flatMap_cons, List.flatMap_cons, inductionHypothesis others, Step.added,
      Shape.upToFault_writable _ first]

/-- A text stays the same when writes are inserted or deleted before it, or when other steps add the
same shapes. Without a fault, any steps that are asked to add the same shapes will do, and the text
is that of the shapes alone. -/
theorem write_only_observes (modified : Moment) (document : Document)
    (created : create modified = .ok document) (earlier later : List Step) :
    ∃ text, document.Writes earlier later text ∧
      (∀ others rest, others.flatMap Step.added = earlier.flatMap Step.added →
        document.Writes others rest text) ∧
      (∀ first second rest, earlier = first ++ second →
        document.Writes (first ++ .write :: second) rest text) ∧
      (∀ first second rest, earlier = first ++ .write :: second →
        document.Writes (first ++ second) rest text) ∧
      ((∀ answer ∈ (document.run earlier).2, ¬answer.IsFault) →
        serialize (earlier.flatMap Step.shapes) modified = .ok text ∧
          ∀ others rest, others.flatMap Step.shapes = earlier.flatMap Step.shapes →
            document.Writes others rest text) := by
  obtain ⟨stamp, stamped, shows⟩ := create_shows created
  have same (others rest : List Step)
      (equal : others.flatMap Step.added = earlier.flatMap Step.added) :
      document.Writes others rest (drawing stamp (earlier.flatMap Step.added)) :=
    equal ▸ shows.writes others rest
  refine ⟨_, shows.writes earlier later, same, ?_, ?_, fun noFault => ?_⟩
  · rintro first second rest rfl
    exact same _ rest (by simp [Step.added, Step.shapes, Shape.upToFault])
  · rintro first second rest rfl
    exact same _ rest (by simp [Step.added, Step.shapes, Shape.upToFault])
  · have writable := document.run_writable earlier noFault
    have every : ∀ shape ∈ earlier.flatMap Step.shapes, shape.Writable := by
      intro shape member
      obtain ⟨step, stepMember, shapeMember⟩ := List.mem_flatMap.1 member
      exact writable step stepMember shape shapeMember
    have added := added_writable earlier writable
    refine ⟨?_, fun others rest equal => same others rest ?_⟩
    · rw [serialize_drawing _ _ every, stamped, added]
      rfl
    · rw [added, ← equal]
      refine added_writable others fun step stepMember shape shapeMember => ?_
      have member := List.mem_flatMap_of_mem stepMember shapeMember
      rw [equal] at member
      exact every shape member

/-- After a fault and a first text, the next text is the same. -/
theorem write_only_observes_afterFault :
    let large : Shape := ⟨['l'], [], .integer (10 ^ 400), .integer 2, .integer 3, .integer 4, .edge⟩
    ∃ document, create ⟨⟨2024, 5, 1⟩, 12, 0, 0, 0, none⟩ = .ok document ∧
      ∃ text, document.Writes [.add large, .extend [large, large]] [.write] text ∧
        document.Writes ([.add large, .extend [large, large]] ++ [.write]) [] text := by
  intro large
  obtain ⟨text, writes, -, inserted, -⟩ :=
    write_only_observes ⟨⟨2024, 5, 1⟩, 12, 0, 0, 0, none⟩ _ rfl
      [.add large, .extend [large, large]] [.write]
  exact ⟨_, rfl, text, writes, inserted _ [] [] (List.append_nil _).symm⟩

/-- An extension stops at a shape that is too large, where single additions go on. -/
theorem regrouping_changes_text :
    let small : Shape := ⟨['s'], [], .integer 1, .integer 2, .integer 3, .integer 4, .vertex⟩
    let large : Shape :=
      ⟨['l'], [], .integer (10 ^ 400), .integer 2, .integer 3, .integer 4, .vertex⟩
    ∃ document text other, create ⟨⟨2024, 5, 1⟩, 12, 0, 0, 0, none⟩ = .ok document ∧
      document.Writes [.extend [large, small]] [] text ∧
      document.Writes [.add large, .add small] [] other ∧ text ≠ other := by
  intro small large
  obtain ⟨stamp, -, shows⟩ :=
    create_shows (rfl : create ⟨⟨2024, 5, 1⟩, 12, 0, 0, 0, none⟩ = .ok _)
  have stops : [Step.extend [large, small]].flatMap Step.added = [large] := by decide +kernel
  have goesOn : [Step.add large, .add small].flatMap Step.added = [large, small] := by
    decide +kernel
  refine ⟨_, _, _, rfl, shows.writes _ [], shows.writes _ [], fun equal => ?_⟩
  have read := congrArg Reader.read? equal
  rw [read_drawing, read_drawing, stops, goesOn] at read
  have cells := congrArg Element.cells (Option.some.inj read)
  rw [cells_frame, cells_frame] at cells
  cases congrArg List.length cells

end Document

end QuadrantChart
