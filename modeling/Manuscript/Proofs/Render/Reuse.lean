import Manuscript.Proofs.Render.Walk

/-!
# One renderer, many documents

A renderer can be used again and again. Each call lays its nodes out to the document that a new
renderer makes of them (`Renderer.make`), and leaves the documents of earlier calls as they are
(`renderAll_eq`), also after a call that ended with a fault. And laying out is compositional: what
two lists of nodes make one after the other is the document of the first followed by that of the
second (`make_append`), and the properties of a root come before those of what is beneath it
(`make_document`).

* `render_eq`: a call in terms of what its walk writes;
* `make_eq_render`: what is made of regular trees is what they are laid out to by themselves.
-/

namespace Manuscript.Renderer

open Layout Render Node

/-- What a call returns: the document at the place that it answers with, or the fault. -/
def returned (r : Renderer) (answer : Except Fault Nat) : Except Fault (Option Document) :=
  answer.map fun place => r.documents[place]?

/-- The document that a new renderer makes of a list of nodes. -/
def make (s : Setup) (ns : List Node) : Except Fault Document :=
  let (answer, r) := render { setup := s } ns
  answer.map fun place => r.documents[place]?.getD {}

/-- The renderer after a document has been begun and written. -/
def begun (r : Renderer) (d : Document) : Renderer :=
  { r with documents := r.documents ++ [d], current := r.documents.length, depth := 0 }

theorem extended_begun (r : Renderer) {d : Document} (h : d.metadata.Distinct) :
    (r.begun {}).extended d = r.begun d := by
  have hmodify : (r.documents ++ [({} : Document)]).modify r.documents.length (· ++ d) =
      r.documents ++ [d] := by
    simp [List.modify_eq_take_cons_drop, Document.empty_append h]
  exact congrArg (fun ds => { r with documents := ds, current := r.documents.length, depth := 0 })
    hmodify

/-- A call begins a document, and what its walk writes with no items around is that document. -/
theorem render_eq {r : Renderer} {ns : List Node} {f : Effect Unit}
    (h : Writes (visitAll r.setup ns) f) :
    r.render ns = ((f 0).1.map fun _ => r.documents.length, r.begun (f 0).2) := by
  have hwalk : (visitAll r.setup ns).run.run (r.begun {}) = ((f 0).1, r.begun (f 0).2) :=
    (h.run (r.begun {})).trans (congrArg (Prod.mk _) (extended_begun r (h.distinct 0)))
  have hrender : r.render ns =
      (do visitAll r.setup ns; return (← get).current : Writing Nat).run.run (r.begun {}) := rfl
  rw [hrender, run_bind, hwalk]
  cases (f 0).1 <;> rfl

theorem make_eq {s : Setup} {ns : List Node} {f : Effect Unit} (h : Writes (visitAll s ns) f) :
    make s ns = (f 0).1.map fun _ => (f 0).2 := by
  rw [make, render_eq h]
  cases (f 0).1 <;> rfl

/-! ## Calls one after another -/

/-- A call returns what a new renderer makes, at a place that is new. -/
theorem exists_render_eq (r : Renderer) (ns : List Node) :
    ∃ d, r.render ns = ((make r.setup ns).map fun _ => r.documents.length, r.begun d) ∧
      ∀ e, make r.setup ns = .ok e → e = d := by
  obtain ⟨f, hf, -⟩ := lays_visitAll r.setup ns
  refine ⟨(f 0).2, ?_, ?_⟩
  · rw [render_eq hf, make_eq hf]
    cases (f 0).1 <;> rfl
  · intro e he
    rw [make_eq hf] at he
    cases h : (f 0).1 with
    | error => simp [h, Except.map] at he
    | ok => simpa [h, Except.map] using he.symm

/-- Each call on a renderer returns what a new renderer makes of the same nodes, and the documents
    that were there before stay as they are. -/
theorem renderAll_eq (r : Renderer) (calls : List (List Node)) :
    r.documents <+: (r.renderAll calls).2.documents ∧
      (r.renderAll calls).1.map (r.renderAll calls).2.returned =
        calls.map fun ns => (make r.setup ns).map some := by
  induction calls generalizing r with
  | nil => exact ⟨List.prefix_rfl, rfl⟩
  | cons ns calls ih =>
    obtain ⟨d, hrender, hmade⟩ := exists_render_eq r ns
    obtain ⟨hgrown, hreturned⟩ := ih (r.begun d)
    have hafter : r.renderAll (ns :: calls) =
        (((make r.setup ns).map fun _ => r.documents.length) :: ((r.begun d).renderAll calls).1,
          ((r.begun d).renderAll calls).2) := by
      rw [renderAll, hrender]
    -- The document stays where it was put, as those of later calls come after it.
    have hplace : ((r.begun d).renderAll calls).2.documents[r.documents.length]? = some d := by
      obtain ⟨later, hlater⟩ := hgrown
      rw [← hlater]
      simp [begun]
    have hfirst : ((r.begun d).renderAll calls).2.returned
        ((make r.setup ns).map fun _ => r.documents.length) = (make r.setup ns).map some := by
      cases h : make r.setup ns with
      | error => rfl
      | ok e =>
        rw [hmade e h]
        exact congrArg Except.ok hplace
    rw [hafter, List.map_cons, List.map_cons, hfirst, hreturned]
    exact ⟨(List.prefix_append _ _).trans hgrown, rfl⟩

/-! ## Lists one after another -/

theorem visitAll_append (s : Setup) (ns ms : List Node) :
    visitAll s (ns ++ ms) = (do visitAll s ns; visitAll s ms) := by
  induction ns with
  | nil => simp [visitAll]
  | cons n ns ih => simp [visitAll, ih]

/-- Two lists make the document of the first, followed by that of the second. -/
theorem make_append (s : Setup) (ns ms : List Node) :
    make s (ns ++ ms) = (do return (← make s ns) ++ (← make s ms)) := by
  obtain ⟨f, hf, -⟩ := lays_visitAll s ns
  obtain ⟨g, hg, -⟩ := lays_visitAll s ms
  have hboth : Writes (visitAll s (ns ++ ms)) (f.andThen fun _ => g) := by
    rw [visitAll_append]
    exact hf.bind fun _ => hg
  rw [make_eq hboth, make_eq hf, make_eq hg, Effect.andThen]
  rcases f 0 with ⟨e | _, d⟩
  · rfl
  · rcases g 0 with ⟨e | _, d'⟩ <;> rfl

/-- A root makes what is beneath it makes, with its own properties first. -/
theorem make_document (s : Setup) (ns : List Node) {m : Metadata} (h : m.Distinct) :
    make s [.document ns m] =
      (make s ns).map fun d => ⟨d.blocks, m.update d.metadata⟩ := by
  obtain ⟨f, hf, -⟩ := lays_visitAll s ns
  have hroot : Writes (visitAll s [.document ns m])
      (Effect.andThen (fun _ => (.ok (), { metadata := m })) fun _ => f) := by
    have hset := Writes.setProperties m
    rw [Metadata.nil_update h] at hset
    simpa [visitAll, visit] using hset.bind fun _ => hf
  rw [make_eq hroot, make_eq hf, Effect.andThen]
  rcases f 0 with ⟨e | _, d⟩ <;> rfl

/-- What is made of regular trees is what they are laid out to. -/
theorem make_eq_render {ns : List Node} (h : AllRegular ns) (s : Setup) :
    make s ns = .ok (Render.render s ns) := by
  obtain ⟨f, hf, hok⟩ := lays_visitAll s ns
  rw [make_eq hf, hok h]
  rfl

/-- Rendering is compositional, and one renderer can be reused. Every call on any renderer returns
    what a new one makes, and no document that was there before is changed by it. What two lists
    make one after the other is the first document with the blocks of the second behind its own and
    its properties overridden by those of the second, and a root with properties puts these before
    those of what is beneath it. -/
theorem make_reused_appended (s : Setup) :
    (∀ (r : Renderer) (calls : List (List Node)), r.setup = s →
      r.documents <+: (r.renderAll calls).2.documents ∧
        (r.renderAll calls).1.map (r.renderAll calls).2.returned =
          calls.map fun ns => (make s ns).map some) ∧
      ∀ xs ys : List Node, AllRegular xs → AllRegular ys →
        ∃ d e : Document, make s xs = .ok d ∧ make s ys = .ok e ∧
          make s (xs ++ ys) = .ok ⟨d.blocks ++ e.blocks, d.metadata.update e.metadata⟩ ∧
          ∀ m : Metadata, m.Distinct →
            make s [.document xs m] = .ok ⟨d.blocks, m.update d.metadata⟩ := by
  refine ⟨?_, fun xs ys hxs hys => ?_⟩
  · rintro r calls rfl
    exact renderAll_eq r calls
  · have hd := make_eq_render hxs s
    have he := make_eq_render hys s
    refine ⟨_, _, hd, he, ?_, fun m hm => ?_⟩
    · rw [make_append, hd, he]
      rfl
    · rw [make_document s xs hm, hd]
      rfl

/-- A renderer that has gone astray within three items is used for a list, for something that is
    none, which ends with a fault, and for the list again. -/
theorem make_reused_appended_twice :
    let r : Renderer := { documents := [{}, .ofParagraph thematicBreak], current := 5, depth := 3 }
    let xs : List Node := [.bulletList [.listItem [.paragraph [.text "a"], .indentedCode "b"]]]
    let ys : List Node := [.document [.thematicBreak] [("title", .text "c"), ("x", .null)]]
    let m : Metadata := [("x", .text "d")]
    let d := Render.render {} xs
    (AllRegular xs ∧ AllRegular ys ∧ m.Distinct) ∧
      (r.renderAll [xs, [.bulletList [.text "a"]], xs]).1.map
          (r.renderAll [xs, [.bulletList [.text "a"]], xs]).2.returned =
        [.ok (some d), .error .noSuchAttribute, .ok (some d)] ∧
      make {} (xs ++ ys) =
        .ok ⟨d.blocks ++ [.paragraph thematicBreak], [("title", .text "c"), ("x", .null)]⟩ ∧
      make {} [.document ys m] =
        .ok ⟨[.paragraph thematicBreak], [("x", .null), ("title", .text "c")]⟩ := by
  intro r xs ys m d
  have hxs : AllRegular xs := by decide
  have hys : AllRegular ys := by decide
  have hm : m.Distinct := by decide
  have hd : make {} xs = .ok d := make_eq_render hxs {}
  obtain ⟨hreused, happended⟩ := make_reused_appended {}
  refine ⟨⟨hxs, hys, hm⟩, ?_, ?_, ?_⟩
  · rw [(hreused r _ rfl).2, List.map_cons, List.map_cons, List.map_cons, hd]
    rfl
  · obtain ⟨d', e, hd', he, hboth, -⟩ := happended xs ys hxs hys
    rw [hboth]
    cases hd'
    cases he
    rfl
  · obtain ⟨d', e, hd', -, -, hroot⟩ := happended ys xs hys hxs
    rw [hroot m hm]
    cases hd'
    rfl

end Manuscript.Renderer
