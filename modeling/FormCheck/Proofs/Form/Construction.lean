import FormCheck.Form.Basic
import FormCheck.Proofs.Fallible
import FormCheck.Proofs.Value.LongNumbers
import FormCheck.Proofs.Value.Parts

/-!
# What the construction of a form consists of

A form is made in three steps: a document is read into a declaration, a declaration is built into a field
with open references, and the field is linked.  Each step recurses through lists of parts.  This file takes
each of them apart once, so that a property of forms is proved by one case for each kind of field:

* `Field.induction_parts`, `Declaration.induction_parts` — induction with the hypothesis for every child and item;
* `Declaration.ofValue_object` — the declaration of an object, read off its entries by their keys;
* `Declaration.Builds`, `Declaration.build_eq_ok_iff` — the four ways in which a declaration yields a field;
* `Field.link_leaf_iff`, `Field.link_group_iff`, `Field.link_array_iff`, `Field.info_of_link`, `FieldInfo.link_iff`,
  `DeclaredRule.link_eq_ok_iff` — what a linked field has been linked from;
* `Form.readDocument_eq_error_iff`, `Form.readDocument_eq_ok_iff` — what the reading of a document ends with;
* `Form.ofDocument_eq_ok_iff` — the steps from a document to a form.
-/

namespace FormCheck

open Fallible

/-! ### Induction over parts -/

@[elab_as_elim]
theorem Field.induction_parts {motive : Field → Prop}
    (leaf : ∀ info kind, motive (.leaf info kind))
    (group : ∀ info children, (∀ c ∈ children, motive c) → motive (.group info children))
    (array : ∀ info item, motive item → motive (.array info item)) (field : Field) : motive field := by
  refine @Field.rec motive (fun fields => ∀ f ∈ fields, motive f) leaf group array
    (fun f hf => by cases hf) (fun head tail ihHead ihTail f hf => ?_) field
  rcases List.mem_cons.mp hf with rfl | hf
  · exact ihHead
  · exact ihTail f hf

@[elab_as_elim]
theorem Declaration.induction_parts {motive : Declaration → Prop}
    (mk : ∀ type repeated details children item,
      (∀ cs, children = some cs → ∀ c ∈ cs, motive c.2) → (∀ d, item = some d → motive d) →
      motive (.mk type repeated details children item)) (declaration : Declaration) :
    motive declaration := by
  refine @Declaration.rec motive (fun children => ∀ cs, children = some cs → ∀ c ∈ cs, motive c.2)
    (fun item => ∀ d, item = some d → motive d) (fun cs => ∀ c ∈ cs, motive c.2) (fun c => motive c.2)
    mk (fun cs h => by cases h) (fun cs ih cs' h => ?_) (fun d h => by cases h) (fun d ih d' h => ?_)
    (fun c hc => by cases hc) (fun head tail ihHead ihTail c hc => ?_) (fun _ _ ih => ih) declaration
  · cases h
    exact ih
  · cases h
    exact ih
  · rcases List.mem_cons.mp hc with rfl | hc
    · exact ihHead
    · exact ihTail c hc

/-! ### From documents to declarations -/

namespace Declaration

theorem childrenIn_eq_map (entries : List (String × Value)) :
    childrenIn entries = entries.map fun e => (e.1, ofValue e.2) := by
  induction entries with
  | nil => rfl
  | cons e entries ih => rw [childrenIn, ih, List.map_cons]

/-- The parts of a declaration are the entries under two keys. -/
theorem partsIn_eq (entries : List (String × Value)) :
    partsIn entries
      = ((entryOf? entries "properties").map childrenOf, (entryOf? entries "items").map ofValue) := by
  induction entries with
  | nil => rfl
  | cons e entries ih =>
    obtain ⟨key, v⟩ := e
    rw [partsIn, ih, entryOf?_cons, entryOf?_cons]
    dsimp only
    by_cases hp : key = "properties"
    · have hi : key ≠ "items" := by rw [hp]; decide
      rw [if_pos hp, if_pos hp, if_neg hi]
      rfl
    · rw [if_neg hp, if_neg hp]
      by_cases hi : key = "items"
      · rw [if_pos hi, if_pos hi]
        rfl
      · rw [if_neg hi, if_neg hi]

theorem ofValue_object (entries : List (String × Value)) :
    ofValue (.object entries) = .mk (typeIn entries) (isRepeatedIn entries) (.ofEntries entries)
      ((entryOf? entries "properties").map childrenOf) ((entryOf? entries "items").map ofValue) := by
  rw [ofValue, partsIn_eq]

/-- Nothing but an object declares anything. -/
theorem ofValue_of_not_object {v : Value} (h : v.isObject = false) :
    ofValue v = .mk "" false (.ofEntries []) none none ∧ childrenOf v = [] := by
  cases v <;> first | exact ⟨rfl, rfl⟩ | cases h

/-! ### From declarations to fields -/

theorem buildAll_eq_mapM (registry : Registry) (place : Path) (children : List (String × Declaration)) :
    buildAll registry place children
      = children.mapM fun c => c.2.build registry c.1 (place ++ [.name c.1]) := by
  induction children with
  | nil => rfl
  | cons c children ih =>
    obtain ⟨name, declaration⟩ := c
    rw [buildAll, List.mapM_cons, ih]

/-- The ways in which a declaration yields a field of a name at a place: a field for a single value, a
group, an array of a group, or an array. -/
inductive Builds (registry : Registry) (name : String) (place : Path) : Declaration → Field → Prop where
  | leaf {type : String} {repeated : Bool} {details : Details} {kind : LeafKind} {info : FieldInfo} :
      Kind.ofKey? type = some (.leaf kind) →
      details.build registry (.leaf kind) name place = .ok info →
      Builds registry name place (.mk type repeated details none none) (.leaf info kind)
  | group {type : String} {details : Details} {children : List (String × Declaration)}
      {fields : List Field} {info : FieldInfo} :
      Kind.ofKey? type = some .group →
      buildAll registry place children = .ok fields →
      details.build registry .group name place = .ok info →
      Builds registry name place (.mk type false details (some children) none) (.group info fields)
  | repeatedGroup {type : String} {details : Details} {children : List (String × Declaration)}
      {fields : List Field} {info arrayInfo : FieldInfo} :
      Kind.ofKey? type = some .group →
      buildAll registry (place ++ [.each]) children = .ok fields →
      details.forElements.build registry .group name (place ++ [.each]) = .ok info →
      details.build registry .array name place = .ok arrayInfo →
      Builds registry name place (.mk type true details (some children) none)
        (.array arrayInfo (.group info fields))
  | array {type : String} {repeated : Bool} {details : Details} {item : Declaration} {field : Field}
      {info : FieldInfo} :
      Kind.ofKey? type = some .array →
      item.build registry name (place ++ [.each]) = .ok field →
      details.build registry .array name place = .ok info →
      Builds registry name place (.mk type repeated details none (some item)) (.array info field)

theorem builds_of_build {registry : Registry} {name : String} {place : Path} {declaration : Declaration}
    {field : Field} (h : declaration.build registry name place = .ok field) :
    Builds registry name place declaration field := by
  obtain ⟨type, repeated, details, children, item⟩ := declaration
  rw [build.eq_def] at h
  dsimp only at h
  split at h
  · cases h
  · next hkind =>
    split at h
    · cases h
    · cases h
    · cases h
    · obtain ⟨fields, hfields, h⟩ := bind_eq_ok_iff.mp h
      cases repeated with
      | false =>
        obtain ⟨info, hinfo, h⟩ := bind_eq_ok_iff.mp h
        cases h
        exact .group hkind hfields hinfo
      | true =>
        obtain ⟨info, hinfo, h⟩ := bind_eq_ok_iff.mp h
        obtain ⟨arrayInfo, harray, h⟩ := bind_eq_ok_iff.mp h
        cases h
        exact .repeatedGroup hkind hfields hinfo harray
  · next hkind =>
    split at h
    · cases h
    · cases h
    · obtain ⟨field, hfield, h⟩ := bind_eq_ok_iff.mp h
      obtain ⟨info, hinfo, h⟩ := bind_eq_ok_iff.mp h
      cases h
      exact .array hkind hfield hinfo
  · next hkind =>
    split at h
    · obtain ⟨info, hinfo, h⟩ := bind_eq_ok_iff.mp h
      cases h
      exact .leaf hkind hinfo
    · cases h

theorem build_of_builds {registry : Registry} {name : String} {place : Path} {declaration : Declaration}
    {field : Field} (h : Builds registry name place declaration field) :
    declaration.build registry name place = .ok field := by
  cases h with
  | leaf hkind hinfo =>
    rw [build, hkind]
    exact bind_eq_ok_iff.mpr ⟨_, hinfo, rfl⟩
  | group hkind hfields hinfo =>
    rw [build, hkind]
    exact bind_eq_ok_iff.mpr ⟨_, hfields, bind_eq_ok_iff.mpr ⟨_, hinfo, rfl⟩⟩
  | repeatedGroup hkind hfields hinfo harray =>
    rw [build, hkind]
    exact bind_eq_ok_iff.mpr
      ⟨_, hfields, bind_eq_ok_iff.mpr ⟨_, hinfo, bind_eq_ok_iff.mpr ⟨_, harray, rfl⟩⟩⟩
  | array hkind hfield hinfo =>
    rw [build, hkind]
    exact bind_eq_ok_iff.mpr ⟨_, hfield, bind_eq_ok_iff.mpr ⟨_, hinfo, rfl⟩⟩

/-- **A declaration is built into a field exactly in the four ways of `Builds`.** -/
theorem build_eq_ok_iff {registry : Registry} {name : String} {place : Path} {declaration : Declaration}
    {field : Field} :
    declaration.build registry name place = .ok field ↔ Builds registry name place declaration field :=
  ⟨builds_of_build, build_of_builds⟩

end Declaration

/-- A rule is built if it is registered for fields of the kind, and its argument can be prepared. -/
theorem Details.buildRule_eq_ok_iff {registry : Registry} {kind : Kind} {place : Path} {name : String}
    {declared : Value} {rule : DeclaredRule} :
    buildRule registry kind place name declared = .ok rule ↔
      ∃ definition prepared, registry.get? name = some definition ∧ kind.target ∈ definition.targets ∧
        definition.prepare declared = .ok prepared ∧ rule = ⟨name, declared, prepared, []⟩ := by
  rw [buildRule]
  cases hdefinition : registry.get? name with
  | none => simp [Building.refuse]
  | some definition =>
    by_cases htarget : kind.target ∈ definition.targets
    · have hcontains : definition.targets.contains kind.target = true := List.contains_iff_mem.mpr htarget
      simp only [hcontains, Bool.not_true, Bool.false_eq_true, if_false]
      rw [bind_eq_ok_iff]
      simp only [mapError_eq_ok_iff, pure_eq_ok, Except.ok.injEq, Option.some.injEq]
      constructor
      · rintro ⟨prepared, hprepared, rfl⟩
        exact ⟨definition, prepared, rfl, htarget, hprepared, rfl⟩
      · rintro ⟨_, prepared, rfl, _, hprepared, rfl⟩
        exact ⟨prepared, hprepared, rfl⟩
    · have hcontains : definition.targets.contains kind.target = false :=
        Bool.eq_false_iff.mpr fun h => htarget (List.contains_iff_mem.mp h)
      simp only [hcontains, Bool.not_false, if_true, Building.refuse, reduceCtorEq, Option.some.injEq, false_iff]
      rintro ⟨_, _, rfl, hmem, _⟩
      exact htarget hmem

/-- The information on a built field: its rules and its condition, with nothing linked. -/
theorem Details.build_eq_ok_iff {registry : Registry} {kind : Kind} {name : String} {place : Path}
    {details : Details} {info : FieldInfo} :
    details.build registry kind name place = .ok info ↔
      ∃ rules condition,
        (details.rules.mapM fun r => Details.buildRule registry kind place r.1 r.2) = .ok rules ∧
        Details.buildCondition place details.condition = .ok condition ∧
        info = ⟨name, place, rules, condition, details.label, details.messages⟩ := by
  rw [Details.build, bind_eq_ok_iff]
  constructor
  · rintro ⟨rules, hrules, h⟩
    obtain ⟨condition, hcondition, h⟩ := bind_eq_ok_iff.mp h
    cases h
    exact ⟨rules, condition, hrules, hcondition, rfl⟩
  · rintro ⟨rules, condition, hrules, hcondition, rfl⟩
    exact ⟨rules, hrules, bind_eq_ok_iff.mpr ⟨condition, hcondition, rfl⟩⟩

/-! ### From fields to linked fields -/

/-- Entries for some keys, one for each in their order. -/
theorem forall₂_key_iff {α : Type} {P : String × α → Prop} {keys : List String} {entries : List (String × α)} :
    List.Forall₂ (fun key e => e.1 = key ∧ P e) keys entries ↔ entries.map (·.1) = keys ∧ ∀ e ∈ entries, P e := by
  induction entries generalizing keys with
  | nil => simp [List.forall₂_nil_right_iff, eq_comm]
  | cons e entries ih =>
    rw [List.forall₂_cons_right_iff, List.map_cons, List.forall_mem_cons]
    constructor
    · rintro ⟨key, rest, ⟨rfl, he⟩, hrest, rfl⟩
      obtain ⟨rfl, hentries⟩ := ih.mp hrest
      exact ⟨rfl, he, hentries⟩
    · rintro ⟨rfl, he, hentries⟩
      exact ⟨e.1, _, ⟨rfl, he⟩, ih.mpr ⟨rfl, hentries⟩, rfl⟩

/-- A rule is linked if it is registered, its references can be told, and each of them stands for a place that can be
filled from the field. -/
theorem DeclaredRule.link_eq_ok_iff {registry : Registry} {root : Field} {base : Path} {rule linked : DeclaredRule} :
    rule.link registry root base = .ok linked ↔
      ∃ definition expressions references, registry.get? rule.name = some definition ∧
        definition.referencesIn rule.prepared = .ok expressions ∧
        (references.map (·.1) = expressions.eraseDups ∧
          ∀ reference ∈ references, root.rulePlace base reference.1 = .ok reference.2) ∧
        linked = { rule with references := references } := by
  have hreference : ∀ e reference, ((root.rulePlace base e).map (e, ·)).mapError (referenceFailure base e)
      = .ok reference ↔ reference.1 = e ∧ root.rulePlace base reference.1 = .ok reference.2 := by
    rintro e ⟨key, place⟩
    rw [mapError_eq_ok_iff, map_eq_ok_iff]
    constructor
    · rintro ⟨found, hfound, hsame⟩
      cases hsame
      exact ⟨rfl, hfound⟩
    · rintro ⟨rfl, hplace⟩
      exact ⟨place, hplace, rfl⟩
  rw [DeclaredRule.link]
  cases hdefinition : registry.get? rule.name with
  | none => simp [Building.refuse]
  | some definition =>
    simp only [bind_eq_ok_iff, mapError_eq_ok_iff, mapM_eq_ok_iff, hreference, forall₂_key_iff, pure_eq_ok,
      Except.ok.injEq, Option.some.injEq]
    constructor
    · rintro ⟨expressions, hexpressions, references, hreferences, rfl⟩
      exact ⟨definition, expressions, references, rfl, hexpressions, hreferences, rfl⟩
    · rintro ⟨_, expressions, references, rfl, hexpressions, hreferences, rfl⟩
      exact ⟨expressions, hexpressions, references, hreferences, rfl⟩

theorem FieldInfo.link_iff {registry : Registry} {root : Field} {info linked : FieldInfo} :
    info.link registry root = .ok linked ↔
      ∃ condition rules,
        (info.condition.mapM fun c => c.resolve fun expression =>
          (root.conditionPlace info.place expression).mapError (referenceFailure info.place expression))
          = .ok condition ∧
        info.rules.mapM (·.link registry root info.place) = .ok rules ∧
        linked = { info with condition := condition, rules := rules } := by
  rw [FieldInfo.link, bind_eq_ok_iff]
  constructor
  · rintro ⟨condition, hcondition, h⟩
    obtain ⟨rules, hrules, h⟩ := bind_eq_ok_iff.mp h
    cases h
    exact ⟨condition, rules, hcondition, hrules, rfl⟩
  · rintro ⟨condition, rules, hcondition, hrules, rfl⟩
    exact ⟨condition, hcondition, bind_eq_ok_iff.mpr ⟨rules, hrules, rfl⟩⟩

namespace Field

variable {registry : Registry} {root : Field}

theorem linkAll_eq_mapM (registry : Registry) (root : Field) (fields : List Field) :
    linkAll registry root fields = fields.mapM (link registry root) := by
  induction fields with
  | nil => rfl
  | cons field fields ih =>
    rw [linkAll, List.mapM_cons, ih]

theorem link_leaf_iff {info : FieldInfo} {kind : LeafKind} {field : Field} :
    link registry root (.leaf info kind) = .ok field ↔
      ∃ linked, info.link registry root = .ok linked ∧ field = .leaf linked kind := by
  rw [link, bind_eq_ok_iff]
  exact exists_congr fun _ => and_congr_right fun _ => by rw [pure_eq_ok, Except.ok.injEq, eq_comm]

theorem link_group_iff {info : FieldInfo} {children : List Field} {field : Field} :
    link registry root (.group info children) = .ok field ↔
      ∃ linked fields, info.link registry root = .ok linked ∧
        children.mapM (link registry root) = .ok fields ∧ field = .group linked fields := by
  rw [link, linkAll_eq_mapM, bind_eq_ok_iff]
  constructor
  · rintro ⟨linked, hinfo, h⟩
    obtain ⟨fields, hfields, h⟩ := bind_eq_ok_iff.mp h
    cases h
    exact ⟨linked, fields, hinfo, hfields, rfl⟩
  · rintro ⟨linked, fields, hinfo, hfields, rfl⟩
    exact ⟨linked, hinfo, bind_eq_ok_iff.mpr ⟨fields, hfields, rfl⟩⟩

theorem link_array_iff {info : FieldInfo} {item field : Field} :
    link registry root (.array info item) = .ok field ↔
      ∃ linked inner, info.link registry root = .ok linked ∧
        link registry root item = .ok inner ∧ field = .array linked inner := by
  rw [link, bind_eq_ok_iff]
  constructor
  · rintro ⟨linked, hinfo, h⟩
    obtain ⟨inner, hinner, h⟩ := bind_eq_ok_iff.mp h
    cases h
    exact ⟨linked, inner, hinfo, hinner, rfl⟩
  · rintro ⟨linked, inner, hinfo, hinner, rfl⟩
    exact ⟨linked, hinfo, bind_eq_ok_iff.mpr ⟨inner, hinner, rfl⟩⟩

/-- What a linked field has is linked from what the field had before. -/
theorem info_of_link {field linked : Field} (h : link registry root field = .ok linked) :
    field.info.link registry root = .ok linked.info := by
  cases field with
  | leaf info kind =>
    obtain ⟨linkedInfo, hinfo, rfl⟩ := link_leaf_iff.mp h
    exact hinfo
  | group info children =>
    obtain ⟨linkedInfo, fields, hinfo, _, rfl⟩ := link_group_iff.mp h
    exact hinfo
  | array info item =>
    obtain ⟨linkedInfo, inner, hinfo, _, rfl⟩ := link_array_iff.mp h
    exact hinfo

end Field

/-! ### From documents to forms -/

theorem Flaw.gravest?_eq_none_iff {flaws : List Flaw} : gravest? flaws = none ↔ flaws = [] := by
  cases flaws with
  | nil => simp [gravest?]
  | cons flaw flaws => simp [gravest?]

/-- The value that is wrong holds a whole number of too many digits. -/
def FlawProblem.HasLongNumber : FlawProblem → Prop
  | .wrongSort v _ | .noTexts v => v.HasLongNumber
  | .noType => False

instance (problem : FlawProblem) : Decidable problem.HasLongNumber :=
  match problem with
  | .wrongSort v _ => inferInstanceAs (Decidable v.HasLongNumber)
  | .noTexts v => inferInstanceAs (Decidable v.HasLongNumber)
  | .noType => inferInstanceAs (Decidable False)

/-- **Every flaw has a wording**, unless the value that is wrong is not written. -/
theorem FlawProblem.message_fails (problem : FlawProblem) :
    FailsIff problem.message .longNumber problem.HasLongNumber := by
  cases problem with
  | wrongSort v sorts => exact v.literal_fails.bind_ok fun _ => rfl
  | noType => exact .ok _
  | noTexts v => exact v.literal_fails.bind_ok fun _ => rfl

theorem Flaw.messages_fail (flaws : List Flaw) :
    FailsIff (flaws.mapM fun (flaw : Flaw) => flaw.problem.message) .longNumber
      (∃ flaw ∈ flaws, flaw.problem.HasLongNumber) :=
  FailsIff.mapM fun flaw _ => flaw.problem.message_fails

namespace Form

/-- **What the reading of a document ends with**: one that is no object is refused; the flaws of an object are worded, which
may be impossible, and the gravest one is reported. -/
theorem readDocument_eq_error_iff {document : Value} {e : Failure SpecError} :
    readDocument document = .error e ↔
      (document.isObject = false ∧ e = .refused ⟨[], .noObject document.sortName⟩) ∨
      (document.isObject = true ∧ (∃ flaw ∈ Flaw.all document, flaw.problem.HasLongNumber) ∧ e = .fault .longNumber) ∨
      (document.isObject = true ∧ (¬ ∃ flaw ∈ Flaw.all document, flaw.problem.HasLongNumber) ∧
        ∃ flaw, Flaw.gravest? (Flaw.all document) = some flaw ∧
          e = .refused ⟨placeOf flaw.location, .malformed flaw.problem⟩) := by
  cases document with
  | object entries =>
    have hfails := Flaw.messages_fail (Flaw.all (.object entries))
    rw [readDocument]
    by_cases hlong : ∃ flaw ∈ Flaw.all (.object entries), flaw.problem.HasLongNumber
    · have hmessages := (hfails .longNumber).mpr ⟨hlong, rfl⟩
      simp [hmessages, hlong, Except.mapError, Value.isObject, eq_comm]
    · obtain ⟨messages, hmessages⟩ := hfails.exists_ok hlong
      cases Flaw.gravest? (Flaw.all (.object entries)) <;>
        simp [hmessages, hlong, Except.mapError, Value.isObject, Building.refuse, eq_comm]
  | _ => simp [readDocument, Building.refuse, Value.isObject, eq_comm]

theorem readDocument_eq_ok_iff {document : Value} {declaration : Declaration} :
    readDocument document = .ok declaration ↔
      document.isObject = true ∧ Flaw.all document = [] ∧ declaration = .ofValue document := by
  cases document with
  | object entries =>
    rw [readDocument, bind_eq_ok_iff]
    cases hflaw : Flaw.gravest? (Flaw.all (.object entries)) with
    | none =>
      have hnone := Flaw.gravest?_eq_none_iff.mp hflaw
      simp [hnone, Value.isObject, Except.mapError, eq_comm]
    | some flaw =>
      have hsome : Flaw.all (.object entries) ≠ [] := by
        intro h
        rw [Flaw.gravest?_eq_none_iff.mpr h] at hflaw
        cases hflaw
      simp [hsome, Building.refuse]
  | _ => simp [readDocument, Building.refuse, Value.isObject]

theorem isObject_of_flawless {document : Value} (h : Flaw.all document = []) : document.isObject = true := by
  cases document with
  | object entries => rfl
  | _ => cases h

theorem readDocument_of_flawless {document : Value} (h : Flaw.all document = []) :
    readDocument document = .ok (.ofValue document) :=
  readDocument_eq_ok_iff.mpr ⟨isObject_of_flawless h, h, rfl⟩

/-- **The steps from a document to a form**: a document without flaws is declared a group, built and
linked. -/
theorem ofDocument_eq_ok_iff {registry : Registry} {document : Value} {form : Form} :
    ofDocument registry document = .ok form ↔
      ∃ draft, document.isObject = true ∧ Flaw.all document = [] ∧
        (Declaration.ofValue document).type = Kind.group.key ∧
        (Declaration.ofValue document).isRepeated = false ∧
        (Declaration.ofValue document).build registry "" [] = .ok draft ∧
        Field.link registry draft draft = .ok form.root := by
  rw [ofDocument, bind_eq_ok_iff]
  constructor
  · rintro ⟨declaration, hread, h⟩
    obtain ⟨hobject, hflaws, rfl⟩ := readDocument_eq_ok_iff.mp hread
    split at h
    · cases h
    · next hgroup =>
      rw [Bool.or_eq_true, not_or, bne_iff_ne, not_not, Bool.not_eq_true] at hgroup
      obtain ⟨draft, hdraft, h⟩ := bind_eq_ok_iff.mp h
      obtain ⟨root, hroot, h⟩ := bind_eq_ok_iff.mp h
      cases h
      exact ⟨draft, hobject, hflaws, hgroup.1, hgroup.2, hdraft, hroot⟩
  · rintro ⟨draft, hobject, hflaws, htype, hrepeated, hdraft, hroot⟩
    refine ⟨_, readDocument_eq_ok_iff.mpr ⟨hobject, hflaws, rfl⟩, ?_⟩
    rw [htype, hrepeated, bne_self_eq_false, Bool.or_self]
    exact bind_eq_ok_iff.mpr ⟨draft, hdraft, bind_eq_ok_iff.mpr ⟨form.root, hroot, rfl⟩⟩

end Form

end FormCheck
