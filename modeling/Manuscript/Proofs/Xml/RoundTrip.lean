import Manuscript.Proofs.Text.Utf8
import Manuscript.Proofs.Xml.Pieces
import Manuscript.Xml.Tree
import Mathlib.Data.List.Nodup

/-!
# Reading back what was written

The bytes of a tree are read as the tree that was written, if its names and texts can be written at
all (`Node.IsUniform`: each short form stands for one space throughout, and a text stands alone in
its element). What is read (`Node.reread`) differs in what writing adds or cannot show: the
declarations of short forms are among the attributes, and empty texts are left out.

* `Node.pieces`: the pieces that a tree is written as, and `Piece.readFrom?_written`: they are what
  is read of its text, with any text to follow;
* `Node.nest?_pieces`: the tree that the pieces make;
* `read_bytes`: both together, for the bytes of a whole tree.
-/

namespace Manuscript.Xml

/-- A word that a name can be made of. -/
structure IsWord (s : String) : Prop where
  isName : Piece.IsName s
  colon : ':' ∉ s.toList

instance (s : String) : Decidable (IsWord s) :=
  decidable_of_iff (Piece.IsName s ∧ ':' ∉ s.toList)
    ⟨fun h => ⟨h.1, h.2⟩, fun h => ⟨h.isName, h.colon⟩⟩

/-- A name that is written with a short form, where each short form stands for one space. -/
structure Name.IsLed (σ : String → String) (n : Name) : Prop where
  lead : IsWord n.lead
  word : IsWord n.word
  space_eq : n.space = σ n.lead
  own : n.lead ∉ ["xml", "xmlns"]
  ownSpace : n.space ∉ ["", declarations, common]
  allowed : Allowed n.space

/-- The attributes of an element as they are written within a scope: those that it has, and the
    declarations that it needs. -/
def writtenAttributes (scope : List (String × String)) (name : Name)
    (attributes : List (Name × String)) : List (Name × String) :=
  attributes ++ (missing scope name attributes).map fun d => (Name.declaring d.1, d.2)

mutual

/-- The pieces that a node is written as within a scope. -/
def Node.pieces (scope : List (String × String)) : Node → List Piece
  | .text s => if s.isEmpty then [] else [.text s ((textChars s).all Piece.isSpace)]
  | .element name attributes children =>
    let scope := declaredIn attributes ++ scope
    let all := writtenAttributes scope name attributes
    let start := Piece.start name.written (all.map fun a => (a.1.written, a.2)) children.isEmpty
    if children.isEmpty then [start]
    else start ::
      (piecesList (missing scope name attributes ++ scope) children ++ [.finish name.written])

/-- The pieces that nodes are written as within a scope, one after another. -/
def piecesList (scope : List (String × String)) : List Node → List Piece
  | [] => []
  | n :: ns => n.pieces scope ++ piecesList scope ns

end

mutual

/-- What is read where a node was written within a scope: an element has the declarations that it
    was written with among its attributes, and an empty text is none. -/
def Node.reread (scope : List (String × String)) : Node → List Node
  | .text s => if s.isEmpty then [] else [.text s]
  | .element name attributes children =>
    let scope := declaredIn attributes ++ scope
    [.element name (writtenAttributes scope name attributes)
      (rereadList (missing scope name attributes ++ scope) children)]

/-- What is read where nodes were written within a scope, one after another. -/
def rereadList (scope : List (String × String)) : List Node → List Node
  | [] => []
  | n :: ns => n.reread scope ++ rereadList scope ns

end

/-- Whether a node is an element. -/
def Node.isElement : Node → Bool
  | .element .. => true
  | .text _ => false

mutual

/-- A tree is uniform if all names in it are written with a short form, each of which stands for one
    space, and no element holds both others and text. -/
def Node.IsUniform (σ : String → String) : Node → Prop
  | .text s => Allowed s
  | .element name attributes children =>
    (name.IsLed σ ∧ (∀ a ∈ attributes, a.1.IsLed σ ∧ Allowed a.2) ∧
      (attributes.map fun a => (a.1.space, a.1.word)).Nodup) ∧
    (children.length = 1 ∨ ∀ c ∈ children, c.isElement = true) ∧ AreUniform σ children

/-- Trees that are uniform with the same short forms. -/
def AreUniform (σ : String → String) : List Node → Prop
  | [] => True
  | n :: ns => n.IsUniform σ ∧ AreUniform σ ns

end

/-- Nodes are uniform if each of them is. -/
theorem areUniform_iff {σ : String → String} {ns : List Node} :
    AreUniform σ ns ↔ ∀ n ∈ ns, n.IsUniform σ := by
  induction ns with
  | nil => simp [AreUniform]
  | cons n ns ih => simp [AreUniform, ih]

/-! ## Names -/

section Names

variable {σ : String → String} {n : Name} {scope : List (String × String)}

theorem IsWord.ne_empty {s : String} (h : IsWord s) : s ≠ "" := by
  rintro rfl
  cases h.isName.starts

/-- A name that is led is written with its lead, a colon and its word. -/
theorem Name.IsLed.written_eq (h : n.IsLed σ) : n.written = n.lead ++ ":" ++ n.word := by
  rw [written, if_neg (by simpa using h.lead.ne_empty)]

/-- Two names with a colon between them are a name. -/
theorem isName_colon {lead word : String} (hlead : Piece.IsName lead) (hword : Piece.IsName word) :
    Piece.IsName (lead ++ ":" ++ word) where
  starts := by
    obtain ⟨c, cs, hs, hc⟩ := hlead.exists_cons
    simp [String.toList_append, hs, hc]
  continues c hc := by
    rw [String.toList_append, String.toList_append] at hc
    obtain (hc | hc) | hc := (List.mem_append.1 hc).imp_left List.mem_append.1
    · exact hlead.continues c hc
    · cases List.mem_singleton.1 (show c ∈ [':'] from hc)
      decide
    · exact hword.continues c hc

/-- A written name is split at its colon into lead and word. -/
theorem splitWritten_colon {lead word : String} (hlead : IsWord lead) (hword : IsWord word) :
    splitWritten (lead ++ ":" ++ word) = some (lead, word) := by
  have hsplit : (lead ++ ":" ++ word).toList.splitOn ':' = [lead.toList, word.toList] := by
    have hjoin : (lead ++ ":" ++ word).toList =
        [':'].intercalate [lead.toList, word.toList] := by
      simp [String.toList_append, List.intercalate]
    rw [hjoin, List.splitOn_intercalate ':' ?_ (by simp)]
    intro l hl
    obtain rfl | rfl := List.mem_pair.1 hl
    · exact hlead.colon
    · exact hword.colon
  have hne {s : String} (h : IsWord s) : s.toList.isEmpty = false := by
    obtain ⟨c, cs, hs, -⟩ := h.isName.exists_cons
    rw [hs]
    rfl
  rw [splitWritten, hsplit]
  simp [hne hlead, hne hword]

/-- What has a colon in it declares no namespace of names without lead. -/
theorem ne_xmlns_of_colon {s : String} (h : ':' ∈ s.toList) : s ≠ "xmlns" := by
  rintro rfl
  exact absurd h (by decide)

/-- A name that is led declares nothing. -/
theorem Name.IsLed.declared?_written (h : n.IsLed σ) : declared? n.written = none := by
  rw [h.written_eq, declared?, if_neg (ne_xmlns_of_colon (by simp [String.toList_append])),
    splitWritten_colon h.lead h.word]
  have hown := h.own
  simp at hown
  simp [hown]

/-! ## Scopes -/

/-- In a scope each short form stands for its space. -/
def Scoped (σ : String → String) (scope : List (String × String)) : Prop :=
  ∀ d ∈ scope, d.2 = σ d.1

/-- In a uniform scope a lead is looked up to what any of its declarations says. -/
theorem lookup_of_mem (hscope : Scoped σ scope) {d : String × String} (hd : d ∈ scope) :
    scope.lookup d.1 = some d.2 := by
  induction scope with
  | nil => cases hd
  | cons e scope ih =>
    obtain ⟨lead, space⟩ := e
    rw [List.lookup_cons]
    split
    · rename_i heq
      rw [beq_iff_eq] at heq
      -- An earlier declaration of the same lead says the same.
      have hspace : space = σ lead := hscope _ List.mem_cons_self
      rw [hscope d hd, heq, hspace]
    · rename_i hne
      obtain rfl | hd := List.mem_cons.1 hd
      · simp at hne
      · exact ih (fun e he => hscope e (List.mem_cons_of_mem _ he)) hd

theorem Scoped.append {more : List (String × String)} (hmore : Scoped σ more)
    (hscope : Scoped σ scope) : Scoped σ (more ++ scope) :=
  fun d hd => (List.mem_append.1 hd).elim (hmore d) (hscope d)

theorem mem_scope_of_lookup {lead space : String} (h : scope.lookup lead = some space) :
    (lead, space) ∈ scope := by
  induction scope with
  | nil => cases h
  | cons e scope ih =>
    obtain ⟨lead', space'⟩ := e
    rw [List.lookup_cons] at h
    split at h
    · rename_i heq
      cases h
      cases beq_iff_eq.1 heq
      exact List.mem_cons_self
    · exact List.mem_cons_of_mem _ (ih h)

/-- A name that is led needs declaring if the scope says another thing of its lead, or nothing. -/
theorem Name.IsLed.needsDeclaring_eq (h : n.IsLed σ) (isAttribute : Bool) :
    needsDeclaring scope isAttribute n = (scope.lookup n.lead != some n.space) := by
  have hspace := h.ownSpace
  simp only [List.mem_cons, List.not_mem_nil, or_false, not_or] at hspace
  rw [needsDeclaring, if_neg (by simp [hspace]), if_neg (by simpa using h.lead.ne_empty)]

/-! ## Declarations -/

section Declarations

variable {name : Name} {attributes : List (Name × String)}

/-- Adding what is not there yet keeps the members. -/
theorem mem_foldl_dedup {ds : List (String × String)} {own : List (String × String)}
    {d : String × String} :
    d ∈ ds.foldl (fun ds d => if ds.contains d then ds else ds ++ [d]) own ↔ d ∈ own ∨ d ∈ ds := by
  induction ds generalizing own with
  | nil => simp
  | cons e ds ih =>
    rw [List.foldl_cons, ih]
    split
    · rename_i h
      rw [List.contains_iff_mem] at h
      simp only [List.mem_cons]
      constructor
      · rintro (h | h) <;> simp [h]
      · rintro (h' | rfl | h') <;> simp [*]
    · simp only [List.mem_append, List.mem_cons, List.not_mem_nil, or_false]
      tauto

/-- Adding what is not there yet makes no member twice. -/
theorem nodup_foldl_dedup {ds own : List (String × String)} (hown : own.Nodup) :
    (ds.foldl (fun ds d => if ds.contains d then ds else ds ++ [d]) own).Nodup := by
  induction ds generalizing own with
  | nil => exact hown
  | cons e ds ih =>
    rw [List.foldl_cons]
    split
    · exact ih hown
    · rename_i h
      rw [List.contains_iff_mem] at h
      refine ih (List.nodup_append.2 ⟨hown, List.pairwise_singleton _ e, ?_⟩)
      rintro a ha b hb rfl
      cases List.mem_singleton.1 hb
      exact h ha

/-- What is declared is what some name of the element needs. -/
theorem mem_missing_iff {d : String × String} :
    d ∈ missing scope name attributes ↔
      (needsDeclaring scope false name = true ∧ d = (name.lead, name.space)) ∨
        ∃ a ∈ attributes, needsDeclaring scope true a.1 = true ∧ d = (a.1.lead, a.1.space) := by
  rw [missing, mem_foldl_dedup]
  refine or_congr ?_ ?_
  · split <;> simp [*]
  · simp only [List.mem_map, List.mem_filter, and_assoc, eq_comm (a := d)]

/-- No declaration is missing twice. -/
theorem nodup_missing : (missing scope name attributes).Nodup := by
  rw [missing]
  refine nodup_foldl_dedup ?_
  split <;> simp

/-- What is missing is the lead and the namespace of a name of the element. -/
theorem exists_led_of_mem_missing (hname : name.IsLed σ)
    (hattributes : ∀ a ∈ attributes, a.1.IsLed σ ∧ Allowed a.2) {d : String × String}
    (hd : d ∈ missing scope name attributes) : ∃ n : Name, n.IsLed σ ∧ d = (n.lead, n.space) := by
  obtain ⟨-, rfl⟩ | ⟨a, ha, -, rfl⟩ := mem_missing_iff.1 hd
  · exact ⟨name, hname, rfl⟩
  · exact ⟨a.1, (hattributes a ha).1, rfl⟩

/-- The declarations that an element adds are those of the one map from leads to namespaces. -/
theorem scoped_missing (hname : name.IsLed σ)
    (hattributes : ∀ a ∈ attributes, a.1.IsLed σ ∧ Allowed a.2) :
    Scoped σ (missing scope name attributes) := by
  intro d hd
  obtain ⟨n, hn, rfl⟩ := exists_led_of_mem_missing hname hattributes hd
  exact hn.space_eq

/-- A name that is declared, or that did not need to be, is known by its short form. -/
theorem lookup_of_declared (hscope : Scoped σ scope)
    (hmissing : Scoped σ (missing scope name attributes)) (isAttribute : Bool)
    (hn : n.IsLed σ) (h : needsDeclaring scope isAttribute n = true →
      (n.lead, n.space) ∈ missing scope name attributes) :
    (missing scope name attributes ++ scope).lookup n.lead = some n.space := by
  refine lookup_of_mem (hmissing.append hscope) (d := (n.lead, n.space)) ?_
  -- Either the element declares the name, or the scope around it has it already.
  by_cases hneeds : needsDeclaring scope isAttribute n = true
  · exact List.mem_append_left _ (h hneeds)
  · rw [hn.needsDeclaring_eq, bne_iff_ne, not_not] at hneeds
    exact List.mem_append_right _ (mem_scope_of_lookup hneeds)

/-- Attributes that are led declare nothing themselves. -/
theorem declaredIn_eq_nil (hattributes : ∀ a ∈ attributes, a.1.IsLed σ ∧ Allowed a.2) :
    declaredIn attributes = [] := by
  refine List.filterMap_eq_nil_iff.2 fun a ha => ?_
  have hspace := (hattributes a ha).1.ownSpace
  simp only [List.mem_cons, List.not_mem_nil, or_false, not_or] at hspace
  exact if_neg hspace.2.1

/-! ## Starting an element -/

/-- A name is read back in a scope that has its lead. -/
theorem resolveName?_written (hn : n.IsLed σ) (hlookup : scope.lookup n.lead = some n.space)
    (isAttribute : Bool) : resolveName? scope isAttribute n.written = some n := by
  have hown := hn.own
  simp only [List.mem_cons, List.not_mem_nil, or_false, not_or] at hown
  rw [resolveName?, hn.declared?_written, hn.written_eq, splitWritten_colon hn.lead hn.word]
  simp [hown.1, hn.lead.ne_empty, hlookup]

theorem declaring_written {lead : String} (hlead : IsWord lead) :
    (Name.declaring lead).written = "xmlns" ++ ":" ++ lead := by
  rw [Name.declaring, if_neg (by simpa using hlead.ne_empty)]
  rfl

/-- The lead of declarations is a word, so declarations are names with a lead like others. -/
theorem isWord_xmlns : IsWord "xmlns" := by
  decide

/-- A written declaration is known for one, with the lead that it declares. -/
theorem declared?_declaring {lead : String} (hlead : IsWord lead) :
    declared? (Name.declaring lead).written = some lead := by
  rw [declaring_written hlead, declared?,
    if_neg (ne_xmlns_of_colon (by simp [String.toList_append])),
    splitWritten_colon isWord_xmlns hlead]
  simp

/-- A written declaration is read back as what it is. -/
theorem resolveName?_declaring {lead : String} (hlead : IsWord lead) :
    resolveName? scope true (Name.declaring lead).written = some (.declaring lead) := by
  rw [resolveName?, declared?_declaring hlead, declaring_written hlead,
    splitWritten_colon isWord_xmlns hlead]
  simp

/-- What an element is written with names no attribute twice. -/
theorem nodup_writtenAttributes (hname : name.IsLed σ)
    (hattributes : ∀ a ∈ attributes, a.1.IsLed σ ∧ Allowed a.2)
    (hnodup : (attributes.map fun a => (a.1.space, a.1.word)).Nodup) :
    ((writtenAttributes scope name attributes).map fun a => (a.1.space, a.1.word)).Nodup := by
  have hword {d : String × String} (hd : d ∈ missing scope name attributes) :
      Name.declaring d.1 = ⟨"xmlns", declarations, d.1⟩ := by
    obtain ⟨n, hn, rfl⟩ := exists_led_of_mem_missing hname hattributes hd
    exact if_neg (by simpa using hn.lead.ne_empty)
  -- Own attributes differ by assumption, declarations since no lead is declared twice, and one of
  -- each since no own attribute has the namespace of declarations.
  rw [writtenAttributes, List.map_append, List.nodup_append]
  refine ⟨hnodup, ?_, ?_⟩
  · rw [List.map_map]
    refine List.Nodup.map_on (fun d hd e he heq => ?_) nodup_missing
    simp only [Function.comp_apply, hword hd, hword he, Prod.mk.injEq, true_and] at heq
    have hscoped : Scoped σ (missing scope name attributes) := scoped_missing hname hattributes
    exact Prod.ext heq (by rw [hscoped d hd, hscoped e he, heq])
  · rintro _ ha _ hd rfl
    obtain ⟨a, ha, ha'⟩ := List.mem_map.1 ha
    obtain ⟨b, hb, hb'⟩ := List.mem_map.1 hd
    obtain ⟨d, hd, rfl⟩ := List.mem_map.1 hb
    have hspace := (hattributes a ha).1.ownSpace
    rw [hword hd] at hb'
    have heq : a.1.space = declarations := congrArg Prod.fst (ha'.trans hb'.symm)
    simp [heq] at hspace

/-- There is nothing to erase where nothing comes twice. -/
theorem eraseDups_eq_self {α : Type*} [BEq α] [LawfulBEq α] {xs : List α} (h : xs.Nodup) :
    xs.eraseDups = xs := by
  induction xs with
  | nil => rfl
  | cons x xs ih =>
    rw [List.nodup_cons] at h
    rw [List.eraseDups_cons, List.filter_eq_self.2, ih h.2]
    intro y hy
    simp only [Bool.not_eq_true', beq_eq_false_iff_ne]
    rintro rfl
    exact h.1 hy

/-- What undoes a function on each member undoes it on a list. -/
theorem mapM_map_eq_some {f : β → Option α} {g : α → β} {xs : List α}
    (h : ∀ x ∈ xs, f (g x) = some x) : (xs.map g).mapM f = some xs := by
  induction xs with
  | nil => rfl
  | cons x xs ih =>
    rw [List.forall_mem_cons] at h
    rw [List.map_cons, List.mapM_cons, h.1, ih h.2]
    rfl

theorem isWord_of_mem_missing (hname : name.IsLed σ)
    (hattributes : ∀ a ∈ attributes, a.1.IsLed σ ∧ Allowed a.2) {d : String × String}
    (hd : d ∈ missing scope name attributes) : IsWord d.1 := by
  obtain ⟨n, hn, rfl⟩ := exists_led_of_mem_missing hname hattributes hd
  exact hn.lead

/-- Each attribute that is written is read back by its name: the element's own, and the declarations
    before them. -/
theorem resolveName?_of_mem (hscope : Scoped σ scope) (hname : name.IsLed σ)
    (hattributes : ∀ a ∈ attributes, a.1.IsLed σ ∧ Allowed a.2) {a : Name × String}
    (ha : a ∈ writtenAttributes scope name attributes) :
    resolveName? (missing scope name attributes ++ scope) true a.1.written = some a.1 := by
  obtain ha | ha := List.mem_append.1 ha
  · have hled := (hattributes a ha).1
    refine resolveName?_written hled (lookup_of_declared hscope
      (scoped_missing hname hattributes) true hled fun hneeds => ?_) _
    exact mem_missing_iff.2 (.inr ⟨a, ha, hneeds, rfl⟩)
  · obtain ⟨d, hd, rfl⟩ := List.mem_map.1 ha
    exact resolveName?_declaring (isWord_of_mem_missing hname hattributes hd)

/-- The short forms that the written attributes declare are those that were missing. -/
theorem filterMap_writtenAttributes (hname : name.IsLed σ)
    (hattributes : ∀ a ∈ attributes, a.1.IsLed σ ∧ Allowed a.2)
    {f : String × String → Option (String × String)}
    (hf : ∀ a, f a = (declared? a.1).map fun lead => (lead, a.2)) :
    ((writtenAttributes scope name attributes).map fun a => (a.1.written, a.2)).filterMap f =
      missing scope name attributes := by
  rw [funext hf, List.filterMap_map, writtenAttributes, List.filterMap_append, List.filterMap_map]
  have hown : attributes.filterMap
      ((fun a => (declared? a.1).map fun lead => (lead, a.2)) ∘ fun a => (a.1.written, a.2)) = [] :=
    List.filterMap_eq_nil_iff.2 fun a ha => by
      simp [(hattributes a ha).1.declared?_written]
  rw [hown, List.nil_append]
  refine (List.filterMap_congr fun d hd => ?_).trans List.filterMap_some
  simp [declared?_declaring (isWord_of_mem_missing hname hattributes hd)]

/-- An element starts with the name and the attributes that were written, and with its short forms
    in scope. -/
theorem exists_start?_written {around : List OpenElement}
    (haround : (around.head?.map (·.scope)).getD [] = scope) (hscope : Scoped σ scope)
    (hname : name.IsLed σ) (hattributes : ∀ a ∈ attributes, a.1.IsLed σ ∧ Allowed a.2)
    (hnodup : (attributes.map fun a => (a.1.space, a.1.word)).Nodup) :
    ∃ keepsBlanks, OpenElement.start? around name.written
        ((writtenAttributes scope name attributes).map fun a => (a.1.written, a.2)) =
      some { written := name.written, name, attributes := writtenAttributes scope name attributes
             scope := missing scope name attributes ++ scope, keepsBlanks } := by
  have hmissing : Scoped σ (missing scope name attributes) := scoped_missing hname hattributes
  -- No lead is declared to stand for nothing.
  have hfilled : ((missing scope name attributes).any fun d => !d.1.isEmpty && d.2.isEmpty) =
      false := by
    refine List.any_eq_false.2 fun d hd => ?_
    obtain ⟨n, hn, rfl⟩ := exists_led_of_mem_missing hname hattributes hd
    have hspace := hn.ownSpace
    simp only [List.mem_cons, List.not_mem_nil, or_false, not_or] at hspace
    simp [hspace.1]
  -- The element's own name is looked up after its declarations are in scope.
  have hown : resolveName? (missing scope name attributes ++ scope) false name.written =
      some name := by
    refine resolveName?_written hname
      (lookup_of_declared hscope hmissing false hname fun hneeds => ?_) _
    exact mem_missing_iff.2 (.inl ⟨hneeds, rfl⟩)
  have hdistinct : ((writtenAttributes scope name attributes).map fun a =>
      (a.1.space, a.1.word)).eraseDups = _ :=
    eraseDups_eq_self (nodup_writtenAttributes hname hattributes hnodup)
  rw [OpenElement.start?]
  simp only [haround]
  rw [filterMap_writtenAttributes hname hattributes fun _ => rfl, hfilled, mapM_map_eq_some]
  · simp only [hown]
    simp [hdistinct]
  · intro a ha
    simp [resolveName?_of_mem hscope hname hattributes ha]

end Declarations

end Names

/-! ## Pieces of a tree -/

/-- Of children that may be a single text, those after the first are elements. -/
theorem isChildren_cons {n : Node} {ns : List Node}
    (h : (n :: ns).length = 1 ∨ ∀ c ∈ n :: ns, c.isElement = true) :
    (n.isElement = true ∨ ns = []) ∧ ∀ c ∈ ns, c.isElement = true := by
  obtain hone | hall := h
  · have hnil : ns = [] := by simpa using hone
    subst hnil
    exact ⟨.inr rfl, List.forall_mem_nil _⟩
  · rw [List.forall_mem_cons] at hall
    exact ⟨.inl hall.1, hall.2⟩

namespace Piece

/-- The characters that a text is written with. -/
theorem toList_texts (s : String) :
    (String.join (s.toList.map writtenInText)).toList = textChars s := by
  rw [textChars, String.toList_join, List.flatMap_map]

/-- The characters that an attribute is written with. -/
theorem toList_attributeText (a : Name × String) :
    (attributeText a).toList = attributeChars (a.1.written, a.2) := by
  have hvalue : (String.join (a.2.toList.map writtenInValue)).toList = valueChars a.2 := by
    rw [valueChars, String.toList_join, List.flatMap_map]
  simp only [attributeText, attributeChars, String.toList_append, hvalue]
  simp

theorem toList_attributeTexts (as : List (Name × String)) :
    (String.join (as.map attributeText)).toList =
      (as.map fun a => (a.1.written, a.2)).flatMap attributeChars := by
  rw [String.toList_join, List.flatMap_map, List.flatMap_map]
  exact List.flatMap_congr fun a _ => toList_attributeText a

variable {σ : String → String} {scope : List (String × String)}

/-- The characters that an element is written as are those of its start, those of what is in it, and
    those of its finish. -/
theorem toList_written_element (name : Name) (attributes : List (Name × String))
    (children : List Node) :
    ((Node.element name attributes children).written scope).toList =
      '<' :: (name.written.toList ++
        (((writtenAttributes (declaredIn attributes ++ scope) name attributes).map fun a =>
          (a.1.written, a.2)).flatMap attributeChars ++ (closing children.isEmpty ++
          if children.isEmpty then [] else
            (writtenList (missing (declaredIn attributes ++ scope) name attributes ++
              (declaredIn attributes ++ scope)) children).toList ++
              '<' :: '/' :: (name.written.toList ++ ['>'])))) := by
  have hattributes :=
    toList_attributeTexts (writtenAttributes (declaredIn attributes ++ scope) name attributes)
  rw [Node.written]
  change (if _ then _ else _ : String).toList = _
  rw [← writtenAttributes]
  split
  · rename_i hempty
    simp only [String.toList_append, hattributes]
    simp [closing, hempty]
  · rename_i hempty
    simp only [String.toList_append, hattributes]
    simp [closing, hempty]

section Trees

variable {done : List Piece} {rest : List Char} {fuel : Nat}

/-- A name that is led is written as a name. -/
theorem isName_written {n : Name} (h : n.IsLed σ) : IsName n.written := by
  rw [h.written_eq]
  exact isName_colon h.lead.isName h.word.isName

/-- Attributes are written with names, the declarations among them too. -/
theorem isName_written_attribute {name : Name} {attributes : List (Name × String)}
    (hname : name.IsLed σ) (hattributes : ∀ a ∈ attributes, a.1.IsLed σ ∧ Allowed a.2)
    {a : Name × String} (ha : a ∈ writtenAttributes scope name attributes) :
    IsName a.1.written := by
  obtain ha | ha := List.mem_append.1 ha
  · exact isName_written (hattributes a ha).1
  · obtain ⟨d, hd, rfl⟩ := List.mem_map.1 ha
    have hlead := isWord_of_mem_missing hname hattributes hd
    rw [declaring_written hlead]
    exact isName_colon isWord_xmlns.isName hlead.isName

/-- The attributes that an element is written with can be read. -/
theorem readFrom?_start_written {name : Name} {attributes : List (Name × String)}
    (hscope : Scoped σ scope) (hname : name.IsLed σ)
    (hattributes : ∀ a ∈ attributes, a.1.IsLed σ ∧ Allowed a.2)
    (hnodup : (attributes.map fun a => (a.1.space, a.1.word)).Nodup) (closed : Bool) :
    readFrom? false done (fuel + 1) ('<' :: (name.written.toList ++
        (((writtenAttributes scope name attributes).map fun a =>
          (a.1.written, a.2)).flatMap attributeChars ++ (closing closed ++ rest)))) =
      readFrom? false (.start name.written
        ((writtenAttributes scope name attributes).map fun a => (a.1.written, a.2)) closed :: done)
        fuel rest := by
  refine readFrom?_start (isName_written hname) (fun a ha => ?_) (fun a ha => ?_) ?_ closed
  · obtain ⟨b, hb, rfl⟩ := List.mem_map.1 ha
    exact isName_written_attribute hname hattributes hb
  · obtain ⟨b, hb, rfl⟩ := List.mem_map.1 ha
    obtain hb | hb := List.mem_append.1 hb
    · exact (hattributes b hb).2
    · obtain ⟨d, hd, rfl⟩ := List.mem_map.1 hb
      obtain ⟨n, hn, rfl⟩ := exists_led_of_mem_missing hname hattributes hd
      exact hn.allowed
  · rw [List.map_map]
    have hdistinct : ((writtenAttributes scope name attributes).map fun a =>
        (a.1.space, a.1.word)).Nodup :=
      nodup_writtenAttributes hname hattributes hnodup
    -- Attributes of one written name are read back as one, so they are the same.
    refine List.Nodup.map_on (fun a ha b hb heq => ?_) hdistinct.of_map
    have hsame : a.1 = b.1 := by
      have hread := resolveName?_of_mem hscope hname hattributes ha
      rw [show a.1.written = b.1.written from heq,
        resolveName?_of_mem hscope hname hattributes hb] at hread
      exact (Option.some.inj hread).symm
    exact List.inj_on_of_nodup_map hdistinct ha hb (by rw [hsame])

/-- An element is read piece by piece, if what is in it is. -/
theorem readFrom?_element {name : Name} {attributes : List (Name × String)} {children : List Node}
    (hscope : Scoped σ scope) (hname : name.IsLed σ)
    (hattributes : ∀ a ∈ attributes, a.1.IsLed σ ∧ Allowed a.2)
    (hnodup : (attributes.map fun a => (a.1.space, a.1.word)).Nodup)
    (hchildren : ∀ done fuel rest, readFrom? false done
        (fuel + (piecesList (missing scope name attributes ++ scope) children).length)
        ((writtenList (missing scope name attributes ++ scope) children).toList ++ '<' :: rest) =
      readFrom? false ((piecesList (missing scope name attributes ++ scope) children).reverse ++ done)
        fuel ('<' :: rest)) :
    readFrom? false done (fuel + ((Node.element name attributes children).pieces scope).length)
        (((Node.element name attributes children).written scope).toList ++ rest) =
      readFrom? false (((Node.element name attributes children).pieces scope).reverse ++ done) fuel
        rest := by
  rw [toList_written_element, Node.pieces, declaredIn_eq_nil hattributes, List.nil_append]
  split
  · simp only [List.cons_append, List.append_assoc, List.nil_append]
    exact readFrom?_start_written hscope hname hattributes hnodup _
  · have hlength (sc : List (String × String)) (p q : Piece) :
        fuel + (p :: (piecesList sc children ++ [q])).length =
          fuel + 1 + (piecesList sc children).length + 1 := by
      simp
      omega
    rw [hlength]
    simp only [List.cons_append, List.append_assoc, List.nil_append]
    rw [readFrom?_start_written hscope hname hattributes hnodup, hchildren,
      readFrom?_finish (isName_written hname)]
    simp

mutual

/-- An element that was written is read piece by piece. -/
theorem readFrom?_written (n : Node) {scope : List (String × String)} (hscope : Scoped σ scope)
    (hn : n.isElement = true) (h : n.IsUniform σ) (done : List Piece) (fuel : Nat) (rest : List Char) :
    readFrom? false done (fuel + (n.pieces scope).length) ((n.written scope).toList ++ rest) =
      readFrom? false ((n.pieces scope).reverse ++ done) fuel rest := by
  cases n with
  | text s => cases hn
  | element name attributes children =>
    obtain ⟨⟨hname, hattributes, hnodup⟩, hshape, hchildren⟩ := h
    exact readFrom?_element hscope hname hattributes hnodup fun done fuel rest =>
      readFrom?_writtenList children ((scoped_missing hname hattributes).append hscope) hshape
        hchildren done fuel rest

/-- What is in an element is read piece by piece. -/
theorem readFrom?_writtenList (ns : List Node) {scope : List (String × String)}
    (hscope : Scoped σ scope)
    (hshape : ns.length = 1 ∨ ∀ c ∈ ns, c.isElement = true) (h : AreUniform σ ns)
    (done : List Piece) (fuel : Nat) (rest : List Char) :
    readFrom? false done (fuel + (piecesList scope ns).length)
        ((writtenList scope ns).toList ++ '<' :: rest) =
      readFrom? false ((piecesList scope ns).reverse ++ done) fuel ('<' :: rest) := by
  cases ns with
  | nil => rfl
  | cons n ns =>
    obtain ⟨hn, hns⟩ := h
    obtain ⟨hfirst, hrest⟩ := isChildren_cons hshape
    rw [writtenList, piecesList, String.toList_append, List.append_assoc, List.length_append,
      Nat.add_comm (n.pieces scope).length, ← Nat.add_assoc, List.reverse_append, List.append_assoc]
    -- The first child is an element, or it is a text and has none after it.
    obtain hfirst | rfl := hfirst
    · rw [readFrom?_written n hscope hfirst hn, readFrom?_writtenList ns hscope (.inr hrest) hns]
    · cases n with
      | element name attributes children =>
        rw [readFrom?_written _ hscope rfl hn]
        rfl
      | text s =>
        rw [Node.written, Node.pieces, toList_texts]
        split
        · rename_i hempty
          rw [String.isEmpty_iff.1 hempty]
          rfl
        · rename_i hempty
          have hne : s ≠ "" := by simpa using hempty
          exact readFrom?_text hn hne rfl

end

end Trees

end Piece

/-! ## The tree of pieces -/

namespace Node

variable {σ : String → String} {root : Option Node} {ps : List Piece}

/-- Nests pieces after a node that is complete. -/
def nestAfter? (root : Option Node) (opened : List OpenElement) (n : Node) (ps : List Piece) :
    Option Node :=
  match opened with
  | [] => nest? (some n) [] ps
  | o :: outer => nest? root (o.add n :: outer) ps

/-- The element that is read where one was written. -/
def declared (scope : List (String × String)) (name : Name) (attributes : List (Name × String))
    (children : List Node) : Node :=
  .element name (writtenAttributes scope name attributes)
    (rereadList (missing scope name attributes ++ scope) children)

/-- The end of the innermost open element closes it, whatever is in it. -/
theorem nest?_finish (root : Option Node) (e : OpenElement) (opened : List OpenElement)
    (ps : List Piece) :
    nest? root (e :: opened) (.finish e.written :: ps) = nestAfter? root opened e.node ps := by
  rw [nest?.eq_def]
  cases opened <;> simp [nestAfter?]

/-- An element is nested into those around it, if what is in it is nested into it. -/
theorem nest?_element {name : Name} {attributes : List (Name × String)} {children : List Node}
    {scope : List (String × String)} {opened : List OpenElement} (hscope : Scoped σ scope)
    (hname : name.IsLed σ) (hattributes : ∀ a ∈ attributes, a.1.IsLed σ ∧ Allowed a.2)
    (hnodup : (attributes.map fun a => (a.1.space, a.1.word)).Nodup)
    (hroot : opened = [] → root = none)
    (haround : (opened.head?.map (·.scope)).getD [] = scope)
    (hchildren : ∀ e : OpenElement, e.scope = missing scope name attributes ++ scope →
      e.reversed = [] → ∀ written,
      nest? root (e :: opened) (piecesList e.scope children ++ .finish written :: ps) =
        nest? root ({ e with reversed := (rereadList e.scope children).reverse } :: opened)
          (.finish written :: ps)) :
    nest? root opened ((Node.element name attributes children).pieces scope ++ ps) =
      nestAfter? root opened (declared scope name attributes children) ps := by
  obtain ⟨keepsBlanks, hstart⟩ :=
    exists_start?_written haround hscope hname hattributes hnodup
  -- A second root is refused, but here nothing is complete yet where nothing is open.
  have hopen : ¬ (opened.isEmpty = true ∧ root.isSome = true) := by
    rintro ⟨hempty, hsome⟩
    rw [hroot (List.isEmpty_iff.1 hempty)] at hsome
    cases hsome
  rw [pieces, declaredIn_eq_nil hattributes, List.nil_append]
  split
  · rename_i hempty
    cases List.isEmpty_iff.1 hempty
    rw [List.singleton_append, nest?, if_neg hopen, hstart]
    cases opened <;> rfl
  · rename_i hempty
    rw [List.cons_append, List.append_assoc, List.singleton_append, nest?, if_neg hopen, hstart]
    simp only [Option.bind_eq_bind, Option.bind_some]
    rw [if_pos (by simpa using hempty)]
    refine (hchildren _ rfl rfl name.written).trans ((nest?_finish root _ opened ps).trans ?_)
    rw [declared, OpenElement.node, List.reverse_reverse]

mutual

/-- An element that was written is nested with its declarations. -/
theorem nest?_pieces (n : Node) {scope : List (String × String)} (opened : List OpenElement)
    (hscope : Scoped σ scope) (hn : n.isElement = true) (h : n.IsUniform σ)
    (hroot : opened = [] → root = none)
    (haround : (opened.head?.map (·.scope)).getD [] = scope) (ps : List Piece) :
    ∃ t, n.reread scope = [t] ∧ t.isElement = true ∧
      nest? root opened (n.pieces scope ++ ps) = nestAfter? root opened t ps := by
  cases n with
  | text s => cases hn
  | element name attributes children =>
    obtain ⟨⟨hname, hattributes, hnodup⟩, hshape, hchildren⟩ := h
    refine ⟨declared scope name attributes children, ?_, rfl, ?_⟩
    · rw [reread, declaredIn_eq_nil hattributes]
      rfl
    · refine nest?_element hscope hname hattributes hnodup hroot haround
        fun e he hempty written => ?_
      rw [nest?_piecesList children e opened
        (he ▸ (scoped_missing hname hattributes).append hscope) hshape hchildren (.inr hempty),
        hempty, List.append_nil]

/-- What is in an element is nested into it. -/
theorem nest?_piecesList (ns : List Node) (e : OpenElement) (outer : List OpenElement)
    (hscope : Scoped σ e.scope) (hshape : ns.length = 1 ∨ ∀ c ∈ ns, c.isElement = true)
    (h : AreUniform σ ns) (hfirst : (∀ c ∈ ns, c.isElement = true) ∨ e.reversed = [])
    (written : String) (ps : List Piece) :
    nest? root (e :: outer) (piecesList e.scope ns ++ .finish written :: ps) =
      nest? root ({ e with reversed := (rereadList e.scope ns).reverse ++ e.reversed } :: outer)
        (.finish written :: ps) := by
  cases ns with
  | nil => rfl
  | cons n ns =>
    obtain ⟨hn, hns⟩ := h
    obtain ⟨hlast, hrest⟩ := isChildren_cons hshape
    rw [piecesList, List.append_assoc]
    -- An element is added to what is in the open one; a text can only be all that is in it.
    by_cases helement : n.isElement = true
    · obtain ⟨t, hread, ht, hnest⟩ := nest?_pieces n (e :: outer) hscope helement hn nofun rfl
        (piecesList e.scope ns ++ .finish written :: ps)
      have hadd : e.add t = { e with reversed := t :: e.reversed } := by
        cases t with
        | text s => cases ht
        | element => rfl
      have hmore := nest?_piecesList ns { e with reversed := t :: e.reversed } outer hscope
        (.inr hrest) hns (.inl hrest) written ps
      rw [hnest, nestAfter?, hadd, rereadList, hread, hmore]
      simp
    · cases hlast.resolve_left helement
      cases n with
      | element => exact absurd rfl helement
      | text s =>
        have hnone : e.reversed = [] := hfirst.resolve_left fun h => by
          cases h _ List.mem_cons_self
        obtain ⟨_, _, _, scope, _, reversed⟩ := e
        cases hnone
        rw [rereadList, reread, pieces]
        split
        · rfl
        · -- Blanks are kept where they are all that an element holds.
          exact if_neg (by simp [OpenElement.dropsBlanks, piecesList])

end

end Node

/-! ## Whole trees -/

section Whole

variable {σ : String → String}

/-- There is no carriage return in a name. -/
theorem return_notMem_of_isName {s : String} (h : Piece.IsName s) : '\r' ∉ s.toList := fun hc => by
  cases (h.continues _ hc).symm.trans (by decide : Piece.continuesName '\r' = false)

/-- There is no carriage return in what attributes are written as. -/
theorem return_notMem_attributes {scope : List (String × String)} {name : Name}
    {attributes : List (Name × String)} (hname : name.IsLed σ)
    (hattributes : ∀ a ∈ attributes, a.1.IsLed σ ∧ Allowed a.2) :
    '\r' ∉ ((writtenAttributes scope name attributes).map fun a =>
      (a.1.written, a.2)).flatMap Piece.attributeChars := by
  intro h
  obtain ⟨_, hmem, hc⟩ := List.mem_flatMap.1 h
  obtain ⟨a, ha, rfl⟩ := List.mem_map.1 hmem
  have hwritten := return_notMem_of_isName (Piece.isName_written_attribute hname hattributes ha)
  have hvalue : '\r' ∉ valueChars a.2 := Piece.not_mem_valueChars a.2 (by simp)
  simp [Piece.attributeChars, hwritten, hvalue] at hc

mutual

/-- A return is written by its number only. -/
theorem return_notMem_written (n : Node) {scope : List (String × String)} (hscope : Scoped σ scope)
    (h : n.IsUniform σ) : '\r' ∉ (n.written scope).toList := by
  cases n with
  | text s =>
    rw [Node.written, Piece.toList_texts]
    exact Piece.not_mem_textChars s (by simp)
  | element name attributes children =>
    obtain ⟨⟨hname, hattributes, -⟩, -, hchildren⟩ := h
    have hinside : '\r' ∉ (writtenList (missing scope name attributes ++ scope) children).toList :=
      return_notMem_writtenList children ((scoped_missing hname hattributes).append hscope) hchildren
    have hwritten := return_notMem_of_isName (Piece.isName_written hname)
    have hall : '\r' ∉ ((writtenAttributes scope name attributes).map fun a =>
        (a.1.written, a.2)).flatMap Piece.attributeChars :=
      return_notMem_attributes hname hattributes
    have hclosing : '\r' ∉ Piece.closing children.isEmpty := by
      cases children.isEmpty <;> decide
    rw [Piece.toList_written_element, declaredIn_eq_nil hattributes]
    simp only [List.nil_append, List.mem_cons, List.mem_append, not_or]
    refine ⟨by decide, hwritten, hall, hclosing, ?_⟩
    split
    · simp
    · simp [hinside, hwritten]

/-- There is no carriage return in what nodes are written as. -/
theorem return_notMem_writtenList (ns : List Node) {scope : List (String × String)}
    (hscope : Scoped σ scope) (h : AreUniform σ ns) : '\r' ∉ (writtenList scope ns).toList := by
  cases ns with
  | nil => simp [writtenList]
  | cons n ns =>
    rw [writtenList, String.toList_append, List.mem_append, not_or]
    exact ⟨return_notMem_written n hscope h.1, return_notMem_writtenList ns hscope h.2⟩

end

/-- Without carriage returns the ends of lines stay as they are. -/
theorem unifyEndings_eq_self {cs : List Char} (h : '\r' ∉ cs) : Text.unifyEndings cs = cs := by
  induction cs with
  | nil => rfl
  | cons c cs ih =>
    rw [List.mem_cons, not_or] at h
    rw [Text.unifyEndings, ih h.2, if_neg (Ne.symm h.1)]
    rintro _ rfl
    exact absurd rfl h.1

mutual

/-- Every piece is written with a character at least. -/
theorem length_pieces_le (n : Node) (scope : List (String × String)) :
    (n.pieces scope).length ≤ (n.written scope).toList.length := by
  cases n with
  | text s =>
    rw [Node.written, Piece.toList_texts, Node.pieces]
    split
    · exact Nat.zero_le _
    · rename_i hempty
      have hlong := Piece.length_le_textChars s
      have hpos : 0 < s.toList.length := List.length_pos_iff.2 (by simpa using hempty)
      rw [List.length_singleton]
      omega
  | element name attributes children =>
    -- What is between the tags has no more pieces than characters, and each tag has a character.
    have hinside := length_piecesList_le children
      (missing (declaredIn attributes ++ scope) name attributes ++ (declaredIn attributes ++ scope))
    rw [Piece.toList_written_element, Node.pieces]
    split
    · simp
    · rename_i hempty
      simp only [hempty]
      simp
      omega

/-- Nodes have no more pieces than characters. -/
theorem length_piecesList_le (ns : List Node) (scope : List (String × String)) :
    (piecesList scope ns).length ≤ (writtenList scope ns).toList.length := by
  cases ns with
  | nil => exact Nat.zero_le _
  | cons n ns =>
    have hn := length_pieces_le n scope
    have hns := length_piecesList_le ns scope
    rw [piecesList, writtenList, String.toList_append, List.length_append, List.length_append]
    omega

end

/-- What stands before every tree that is written. -/
def header : String := "<?xml version=\"1.0\" encoding=\"UTF-8\" standalone=\"yes\"?>\n"

/-- The header is passed over. -/
theorem readFrom?_header (fuel : Nat) (rest : List Char) :
    Piece.readFrom? true [] (fuel + 1) (header.toList ++ rest) =
      Piece.readFrom? false [] fuel ('\n' :: rest) := by
  have hheader : header.toList = '<' :: '?' :: ("xml".toList ++ ' ' ::
      ("version=\"1.0\" encoding=\"UTF-8\" standalone=\"yes\"".toList ++ ['?', '>', '\n'])) := by
    decide
  have hname : Piece.IsName "xml" := by decide
  have hread := Piece.name?_append hname (c := ' ') (by decide)
    ("version=\"1.0\" encoding=\"UTF-8\" standalone=\"yes\"".toList ++ '?' :: '>' :: '\n' :: rest)
  have hsplit : ∃ inside, Piece.splitAt? "?>" ("xml".toList ++ ' ' ::
      ("version=\"1.0\" encoding=\"UTF-8\" standalone=\"yes\"".toList ++
        '?' :: '>' :: '\n' :: rest)) = some (inside, '\n' :: rest) := by
    have hnot : '?' ∉ "xml version=\"1.0\" encoding=\"UTF-8\" standalone=\"yes\"".toList := by decide
    refine ⟨_, (congrArg _ ?_).trans
      (Piece.splitFrom?_append (s := ['>']) hnot [] ('\n' :: rest))⟩
    rfl
  obtain ⟨inside, hsplit⟩ := hsplit
  have hlower : "xml".toLower = "xml" := by decide +kernel
  rw [hheader]
  simp only [List.cons_append, List.append_assoc, List.nil_append]
  -- What the header says does not matter, only where it ends.
  generalize "version=\"1.0\" encoding=\"UTF-8\" standalone=\"yes\"".toList ++
    '?' :: '>' :: '\n' :: rest = tail at hread hsplit ⊢
  rw [Piece.readFrom?, hread, hsplit]
  simp [hlower]

/-- The pieces of a written document are a line feed, for the one after its header, and those of its
    root. -/
theorem read?_header {n : Node} (hn : n.isElement = true) (h : n.IsUniform σ) :
    Piece.read? (header.toList ++ (n.written []).toList) =
      some (.text "\n" true :: n.pieces []) := by
  -- There is a step of fuel for the header, one for the line feed, and one for each piece.
  obtain ⟨k, hk⟩ : ∃ k, (header.toList ++ (n.written []).toList).length + 1 =
      k + 1 + (n.pieces []).length + 1 + 1 := by
    have hlong := length_pieces_le n []
    have hheader : 56 = header.toList.length := by decide
    refine ⟨(header.toList ++ (n.written []).toList).length - (n.pieces []).length - 2, ?_⟩
    rw [List.length_append]
    omega
  have hhead : (n.written []).toList.head? = some '<' := by
    cases n with
    | text s => cases hn
    | element name attributes children => rw [Piece.toList_written_element, List.head?_cons]
  have hfeed : textChars "\n" = ['\n'] := by decide
  have htext : Piece.readFrom? false [] (k + 1 + (n.pieces []).length + 1)
      (textChars "\n" ++ (n.written []).toList) = _ :=
    Piece.readFrom?_text (by decide) (by decide) hhead
  have hscope : Scoped σ [] := nofun
  have hread := Piece.readFrom?_written n hscope hn h [.text "\n" true] (k + 1) []
  rw [hfeed] at htext
  rw [List.append_nil] at hread
  rw [Piece.read?, hk, readFrom?_header]
  refine htext.trans (hread.trans ?_)
  simp [Piece.readFrom?]

/-- A uniform tree is read back as it was written, with the declarations of its short forms among
    its attributes and without empty texts. -/
theorem read_bytes {n : Node} (hn : n.isElement = true) (h : n.IsUniform σ) :
    ∃ t, n.reread [] = [t] ∧ read n.bytes = .ok t := by
  have hscope : Scoped σ [] := nofun
  obtain ⟨t, hread, -, hnest⟩ := Node.nest?_pieces n [] hscope hn h (fun _ => rfl) rfl []
  refine ⟨t, hread, ?_⟩
  have hreturn : '\r' ∉ header.toList ++ (n.written []).toList := by
    rw [List.mem_append, not_or]
    exact ⟨by decide, return_notMem_written n hscope h⟩
  have hmark : (header ++ n.written []).toList.head? ≠ some '\uFEFF' := by
    have hfirst : (header ++ n.written []).toList.head? = some '<' := by
      rw [String.toList_append]
      rfl
    rw [hfirst]
    decide
  rw [List.append_nil] at hnest
  have htree : Node.ofPieces? (.text "\n" true :: n.pieces []) = some t := by
    rw [Node.ofPieces?, Node.nest?, if_pos rfl, hnest]
    rfl
  rw [read, Node.bytes, ← header, Text.dropMark_toUTF8 hmark, Text.decodeUtf8?_toUTF8]
  simp only [Option.bind_eq_bind, Option.bind_some]
  rw [String.toList_append, unifyEndings_eq_self hreturn, read?_header hn h, Option.bind_some, htree]

end Whole

end Manuscript.Xml
