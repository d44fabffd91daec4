import FormCheck.Proofs.Form.Alike
import FormCheck.Proofs.Form.Declared
import FormCheck.Proofs.Form.FurtherRules
import FormCheck.Proofs.Form.SpelledOut

/-!
# Fields declared in another order

The fields of a group are declared one after the other.  Where only this order is changed, in one group or in several,
at any depth, the document goes on to describe a form, and the one form is like the other.

* `Value.ReordersGroup` — a document, and the same with the fields of one of its groups in another order;
  `Value.ReordersGroups` — the same with the fields of any of its groups in another order;
* `Value.keysOnce_of_reordersGroup`, `Flaw.nil_of_reordersGroup` — **proved**: no key is written twice then, and there are
  no flaws, if it was so before;
* `Declaration.build_of_reordersGroup` — **proved**: what the declaration is built into is alike;
* `Form.ofDocument_reordersGroups` — **proved**: the document describes a form whose root is alike.
-/

namespace FormCheck

open Fallible

/-! ### Documents -/

namespace Value

/-- A document, and the same with the fields of one group in another order: of the group itself, or of one below it. -/
inductive ReordersGroup : Value → Value → Prop where
  /-- The fields of the group itself. -/
  | fields {front back children others : List (String × Value)} : children.Perm others →
      ReordersGroup (.object (front ++ ("properties", .object children) :: back))
        (.object (front ++ ("properties", .object others) :: back))
  /-- Those of a group that is a field of this group, or lies below one. -/
  | child {front back before after : List (String × Value)} {name : String} {v w : Value} : ReordersGroup v w →
      ReordersGroup (.object (front ++ ("properties", .object (before ++ (name, v) :: after)) :: back))
        (.object (front ++ ("properties", .object (before ++ (name, w) :: after)) :: back))
  /-- Those of the group that stands for the elements of the array, or lies below it. -/
  | item {front back : List (String × Value)} {v w : Value} : ReordersGroup v w →
      ReordersGroup (.object (front ++ ("items", v) :: back)) (.object (front ++ ("items", w) :: back))

/-- A document, and the same with the fields of any groups in another order. -/
def ReordersGroups : Value → Value → Prop :=
  Relation.ReflTransGen ReordersGroup

variable {front back : List (String × Value)} {key : String} {v w : Value}

theorem keysOnce_replaced (h : v.keysOnce = true → w.keysOnce = true)
    (hkeys : (Value.object (front ++ (key, v) :: back)).keysOnce = true) :
    (Value.object (front ++ (key, w) :: back)).keysOnce = true := by
  rw [keysOnce_object_iff] at hkeys ⊢
  obtain ⟨hnodup, hvalues⟩ := hkeys
  simp only [List.map_append, List.map_cons, List.forall_mem_append, List.forall_mem_cons] at hnodup hvalues ⊢
  exact ⟨hnodup, hvalues.1, h hvalues.2.1, hvalues.2.2⟩

theorem ne_of_keysOnce (hkeys : (Value.object (front ++ (key, v) :: back)).keysOnce = true) :
    ∀ e ∈ front, e.1 ≠ key := by
  intro e he heq
  have hnodup := (keysOnce_object_iff.mp hkeys).1
  rw [List.map_append, List.map_cons, List.nodup_append] at hnodup
  exact hnodup.2.2 e.1 (List.mem_map_of_mem he) key List.mem_cons_self heq

theorem keysOnce_of_middle (hkeys : (Value.object (front ++ (key, v) :: back)).keysOnce = true) : v.keysOnce = true :=
  (keysOnce_object_iff.mp hkeys).2 (key, v) (List.mem_append_right front List.mem_cons_self)

/-- **In another order no key is written twice either.** -/
theorem keysOnce_of_reordersGroup (h : v.ReordersGroup w) : v.keysOnce = true → w.keysOnce = true := by
  induction h with
  | @fields _ _ children others hperm =>
    apply keysOnce_replaced
    intro hkeys
    rw [keysOnce_object_iff] at hkeys ⊢
    exact ⟨(hperm.map _).nodup_iff.mp hkeys.1, fun e he => hkeys.2 e (hperm.mem_iff.mpr he)⟩
  | child _ ih =>
    apply keysOnce_replaced
    exact keysOnce_replaced ih
  | item _ ih => exact keysOnce_replaced ih

end Value

namespace Flaw

variable {front back : List (String × Value)} {key : String} {v w : Value}

theorem nil_of_replaced {location : Location} (hkey : key ≠ "type")
    (h : ofEntry location (key, v) = [] → ofEntry location (key, w) = [])
    (hv : ofField location (.object (front ++ (key, v) :: back)) = []) :
    ofField location (.object (front ++ (key, w) :: back)) = [] := by
  rw [ofField_object_eq_nil_iff] at hv ⊢
  obtain ⟨htype, hentries⟩ := hv
  rw [List.forall_mem_append, List.forall_mem_cons] at hentries ⊢
  refine ⟨?_, hentries.1, h hentries.2.1, hentries.2.2⟩
  rw [entryOf?_middle_of_ne hkey] at htype ⊢
  exact htype

/-- **In another order there are no flaws either.** -/
theorem nil_of_reordersGroup (h : v.ReordersGroup w) :
    ∀ location, ofField location v = [] → ofField location w = [] := by
  induction h with
  | @fields _ _ children others hperm =>
    intro location
    apply nil_of_replaced (by decide)
    show ofChildren _ (.object children) = [] → ofChildren _ (.object others) = []
    rw [ofChildren_object_eq_nil_iff, ofChildren_object_eq_nil_iff]
    exact fun hall e he => hall e (hperm.mem_iff.mpr he)
  | @child _ _ before after name v w _ ih =>
    intro location
    apply nil_of_replaced (by decide)
    show ofChildren _ (.object (before ++ (name, v) :: after)) = []
      → ofChildren _ (.object (before ++ (name, w) :: after)) = []
    rw [ofChildren_object_eq_nil_iff, ofChildren_object_eq_nil_iff]
    simp only [List.forall_mem_append, List.forall_mem_cons]
    exact fun hall => ⟨hall.1, ih _ hall.2.1, hall.2.2⟩
  | item _ ih =>
    intro location
    apply nil_of_replaced (by decide)
    exact ih _

end Flaw

/-! ### Declarations -/

namespace Declaration

variable {front back : List (String × Value)} {v w : Value}

/-- What entries declare, the fields of the group apart. -/
theorem ofValue_properties (hfront : ∀ e ∈ front, e.1 ≠ "properties") (v : Value) :
    ofValue (.object (front ++ ("properties", v) :: back))
      = .mk (typeIn (front ++ back)) (isRepeatedIn (front ++ back)) (.ofEntries (front ++ back)) (some (childrenOf v))
          ((entryOf? (front ++ back) "items").map ofValue) := by
  rw [ofValue_object, entryOf?_middle hfront, typeIn, isRepeatedIn, Details.ofEntries]
  simp (disch := decide) only [entryOf?_middle_of_ne]
  rfl

/-- What entries declare, the field for the elements of the array apart. -/
theorem ofValue_items (hfront : ∀ e ∈ front, e.1 ≠ "items") (v : Value) :
    ofValue (.object (front ++ ("items", v) :: back))
      = .mk (typeIn (front ++ back)) (isRepeatedIn (front ++ back)) (.ofEntries (front ++ back))
          ((entryOf? (front ++ back) "properties").map childrenOf) (some (ofValue v)) := by
  rw [ofValue_object, entryOf?_middle hfront, typeIn, isRepeatedIn, Details.ofEntries]
  simp (disch := decide) only [entryOf?_middle_of_ne]
  rfl

/-- In another order a document declares a field of the same type, which is repeated if it was. -/
theorem type_of_reordersGroup (h : v.ReordersGroup w) (hkeys : v.keysOnce = true) :
    (ofValue w).type = (ofValue v).type ∧ (ofValue w).isRepeated = (ofValue v).isRepeated := by
  cases h with
  | fields _ =>
    have hfront := Value.ne_of_keysOnce hkeys
    rw [ofValue_properties hfront, ofValue_properties hfront]
    exact ⟨rfl, rfl⟩
  | child _ =>
    have hfront := Value.ne_of_keysOnce hkeys
    rw [ofValue_properties hfront, ofValue_properties hfront]
    exact ⟨rfl, rfl⟩
  | item _ =>
    have hfront := Value.ne_of_keysOnce hkeys
    rw [ofValue_items hfront, ofValue_items hfront]
    exact ⟨rfl, rfl⟩

/-! ### What they are built into -/

variable {registry : Registry} {type : String} {repeated : Bool} {details : Details} {name : String} {place : Path}
  {field : Field}

/-- The second declaration is built wherever the first one is, and into a field that is alike. -/
def BuildsAlike (registry : Registry) (d e : Declaration) : Prop :=
  ∀ name place field, d.build registry name place = .ok field →
    ∃ other, e.build registry name place = .ok other ∧ field.Alike other

theorem BuildsAlike.refl (d : Declaration) : BuildsAlike registry d d :=
  fun _ _ field h => ⟨field, h, .refl field⟩

/-- Groups are alike if their fields are built into children of groups that are alike. -/
theorem BuildsAlike.of_children {cs ds : List (String × Declaration)} {item : Option Declaration}
    (h : ∀ place fields, buildAll registry place cs = .ok fields → ∃ others, buildAll registry place ds = .ok others ∧
      ∀ info, (Field.group info fields).Alike (.group info others)) :
    BuildsAlike registry (.mk type repeated details (some cs) item) (.mk type repeated details (some ds) item) := by
  intro name place field hfield
  cases build_eq_ok_iff.mp hfield with
  | group hkind hfields hinfo =>
    obtain ⟨others, hothers, halike⟩ := h _ _ hfields
    exact ⟨_, build_of_builds (.group hkind hothers hinfo), halike _⟩
  | repeatedGroup hkind hfields hinfo harray =>
    obtain ⟨others, hothers, halike⟩ := h _ _ hfields
    exact ⟨_, build_of_builds (.repeatedGroup hkind hothers hinfo harray), Field.alike_of_item _ (halike _)⟩

/-- Arrays are alike if what is built for their elements is. -/
theorem BuildsAlike.of_item {children : Option (List (String × Declaration))} {d e : Declaration}
    (h : BuildsAlike registry d e) :
    BuildsAlike registry (.mk type repeated details children (some d)) (.mk type repeated details children (some e)) := by
  intro name place field hfield
  cases build_eq_ok_iff.mp hfield with
  | array hkind hitem hinfo =>
    obtain ⟨other, hother, halike⟩ := h _ _ _ hitem
    exact ⟨_, build_of_builds (.array hkind hother hinfo), Field.alike_of_item _ halike⟩

/-- The fields that are built have the names under which they are declared. -/
theorem names_of_buildAll {children : List (String × Declaration)} {fields : List Field}
    (h : buildAll registry place children = .ok fields) : fields.map Field.name = children.map (·.1) := by
  rw [buildAll_eq_mapM] at h
  exact map_eq_of_mapM h fun c field hfield => name_of_build hfield

/-- **Fields that are declared in another order are built in this order.** -/
theorem exists_buildAll_of_perm {cs ds : List (String × Declaration)} (hnames : (cs.map (·.1)).Nodup)
    (hperm : cs.Perm ds) {fields : List Field} (h : buildAll registry place cs = .ok fields) :
    ∃ others, buildAll registry place ds = .ok others ∧ ∀ info, (Field.group info fields).Alike (.group info others) := by
  have hfields := names_of_buildAll h
  rw [buildAll_eq_mapM] at h
  obtain ⟨others, hothers, hsame⟩ := exists_mapM_of_perm h hperm
  refine ⟨others, ?_, ?_⟩
  · rw [buildAll_eq_mapM]
    exact hothers
  · intro info
    exact Field.alike_of_perm info (hfields ▸ hnames) hsame

/-- **Where one declaration is replaced by one that builds alike, so are the fields.** -/
theorem exists_buildAll_of_replaced {before after : List (String × Declaration)} {d e : Declaration} {n : String}
    (hde : BuildsAlike registry d e) {fields : List Field}
    (h : buildAll registry place (before ++ (n, d) :: after) = .ok fields) :
    ∃ others, buildAll registry place (before ++ (n, e) :: after) = .ok others ∧
      ∀ info, (Field.group info fields).Alike (.group info others) := by
  have hall : ∃ others, buildAll registry place (before ++ (n, e) :: after) = .ok others ∧
      List.Forall₂ Field.Alike fields others := by
    simp only [buildAll_eq_mapM, List.mapM_append, List.mapM_cons] at h ⊢
    obtain ⟨front, hfront, h⟩ := bind_eq_ok_iff.mp h
    obtain ⟨rest, hrest, h⟩ := bind_eq_ok_iff.mp h
    cases h
    obtain ⟨field, hfield, hrest⟩ := bind_eq_ok_iff.mp hrest
    obtain ⟨back, hback, hrest⟩ := bind_eq_ok_iff.mp hrest
    cases hrest
    obtain ⟨other, hother, halike⟩ := hde _ _ _ hfield
    refine ⟨front ++ other :: back, ?_, ?_⟩
    · rw [hfront, hother, hback]
      rfl
    · have hsame : ∀ fields : List Field, List.Forall₂ Field.Alike fields fields :=
        fun fields => List.forall₂_same.mpr fun c _ => .refl c
      exact List.rel_append (hsame front) (.cons halike (hsame back))
  obtain ⟨others, hothers, halike⟩ := hall
  exact ⟨others, hothers, fun info => Field.alike_of_forall₂ info halike⟩

/-- **In another order a document is built into a field that is alike.** -/
theorem build_of_reordersGroup (h : v.ReordersGroup w) (hkeys : v.keysOnce = true) :
    BuildsAlike registry (ofValue v) (ofValue w) := by
  induction h with
  | @fields front back children others hperm =>
    have hfront := Value.ne_of_keysOnce hkeys
    have hnames := (Value.keysOnce_object_iff.mp (Value.keysOnce_of_middle hkeys)).1
    rw [ofValue_properties hfront, ofValue_properties hfront]
    apply BuildsAlike.of_children
    intro place fields hfields
    rw [childrenOf, childrenIn_eq_map] at hfields ⊢
    refine exists_buildAll_of_perm ?_ (hperm.map _) hfields
    rw [List.map_map]
    exact hnames
  | @child front back before after name v w _ ih =>
    have hfront := Value.ne_of_keysOnce hkeys
    have hinner := Value.keysOnce_of_middle (Value.keysOnce_of_middle hkeys)
    rw [ofValue_properties hfront, ofValue_properties hfront]
    apply BuildsAlike.of_children
    intro place fields hfields
    rw [childrenOf, childrenIn_eq_map, List.map_append, List.map_cons] at hfields ⊢
    exact exists_buildAll_of_replaced (ih hinner) hfields
  | @item front back v w _ ih =>
    have hfront := Value.ne_of_keysOnce hkeys
    rw [ofValue_items hfront, ofValue_items hfront]
    exact BuildsAlike.of_item (ih (Value.keysOnce_of_middle hkeys))

end Declaration

/-! ### Forms -/

namespace Form

variable {registry : Registry} {document reordered : Value} {form : Form}

theorem ofDocument_reordersGroup (h : document.ReordersGroup reordered) (hkeys : document.keysOnce = true)
    (hform : Form.ofDocument registry document = .ok form) :
    ∃ other, Form.ofDocument registry reordered = .ok other ∧ form.root.Alike other.root := by
  obtain ⟨draft, _, hflaws, htype, hrepeated, hdraft, hroot⟩ := Form.ofDocument_eq_ok_iff.mp hform
  obtain ⟨other, hother, halike⟩ := Declaration.build_of_reordersGroup h hkeys _ _ _ hdraft
  have hnames := Declaration.namesOnce_ofValue (Value.keysOnce_of_reordersGroup h hkeys)
  obtain ⟨root, hlinked, hroots⟩ := halike.link (Declaration.build_placed hnames hother).2 hroot
  obtain ⟨htypes, hrepeats⟩ := Declaration.type_of_reordersGroup h hkeys
  have hobject : reordered.isObject = true := by cases h <;> rfl
  refine ⟨⟨root⟩, Form.ofDocument_eq_ok_iff.mpr ⟨other, hobject, ?_, ?_, ?_, hother, hlinked⟩, hroots⟩
  · exact Flaw.nil_of_reordersGroup h [] hflaws
  · rw [htypes, htype]
  · rw [hrepeats, hrepeated]

/-- **With fields declared in another order a document goes on to describe a form**, and the one is like the other. -/
theorem ofDocument_reordersGroups (h : document.ReordersGroups reordered) (hkeys : document.keysOnce = true)
    (hform : Form.ofDocument registry document = .ok form) :
    reordered.keysOnce = true ∧
      ∃ other, Form.ofDocument registry reordered = .ok other ∧ form.root.Alike other.root := by
  induction h with
  | refl => exact ⟨hkeys, form, hform, .refl form.root⟩
  | tail _ hstep ih =>
    obtain ⟨honce, middle, hmiddle, halike⟩ := ih
    obtain ⟨other, hother, hlast⟩ := ofDocument_reordersGroup hstep honce hmiddle
    exact ⟨Value.keysOnce_of_reordersGroup hstep honce, other, hother, halike.trans hlast⟩

end Form

end FormCheck
