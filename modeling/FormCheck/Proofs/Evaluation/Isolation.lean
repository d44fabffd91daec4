import FormCheck.Proofs.Evaluation.Locality
import FormCheck.Proofs.Evaluation.Order
import FormCheck.Proofs.Form.Scope
import FormCheck.Proofs.Value.Change

/-!
# The elements of an array are evaluated apart

A reference of a field in an element stands for a place in the same element or outside of the array, as long as it
does not name an element by its index and does not mean the array as a whole or something around it.  So what an
evaluation says about an element does not depend on the other ones.

* `Field.RefersPast` — no reference of a field, or of one below it, has an index or stands for a place or something
  around it;
* `Value.readAt_of_elsewhere` — **proved**: such a reference reads the same over data that differs in another element;
* `Form.reaches_of_differAt` — **proved**: the places apart from the element are the same;
* `Form.elements_apart` — **proved**: two evaluations of data that differs in one element say the same about all others.
-/

namespace FormCheck

open Fallible Value

/-- No reference of the field, or of one below it, is written with an index, and none stands for the place or for
something around it. -/
def Field.RefersPast (field : Field) (place : Path) : Prop :=
  ∀ f ∈ field.preorder, ∀ reference ∈ f.info.stored,
    (∀ written ∈ (Reference.ofText reference.1).toOption, ∀ s ∈ written.segments, s.isName = true ∨ s = .each) ∧
      ¬ reference.2.outline <+: place.outline

instance (field : Field) (place : Path) : Decidable (field.RefersPast place) :=
  inferInstanceAs (Decidable (∀ _ ∈ _, ∀ _ ∈ _, _ ∧ ¬ _))

/-! ### What is read from another element -/

/-- Where a filled path has an index that the path itself does not have, the path has an open one. -/
theorem Path.getElem?_eq_each {target found : Path} {n : Nat} {k : Int} (hout : found.outline = target.outline)
    (hopen : ∀ k, .index k ∉ target) (h : found[n]? = some (.index k)) : target[n]? = some .each := by
  have hmap : (target[n]?).map Segment.outline = some .each := by
    rw [← List.getElem?_map]
    show target.outline[n]? = some .each
    rw [← hout, outline, List.getElem?_map, h]
    rfl
  obtain ⟨s, hs, hsout⟩ := Option.map_eq_some_iff.mp hmap
  cases s with
  | name n => cases hsout
  | index k => exact absurd (List.mem_of_getElem? hs) (hopen k)
  | each => exact hs

/-- A path without indices that is filled from one element does not lead into another one. -/
theorem Path.apart_of_fill {a p target found : Path} {i j : Int} (hp : a ++ [.index i] <+: p) (hij : i ≠ j)
    (hopen : ∀ k, .index k ∉ target) (hpast : ¬ target.outline <+: a.outline) (h : target.fill p = some found) :
    found.Apart (a ++ [.index j]) := by
  have hout : found.outline = target.outline := Path.outline_of_fill h
  -- Where the path leads into some element, its index has been filled in from the place.
  have hinto : ¬ a ++ [.index j] <+: found := by
    intro hfound
    have hindex : found[a.length]? = some (.index j) := by
      obtain ⟨r, rfl⟩ := hfound
      rw [List.append_assoc, List.getElem?_append_right (Nat.le_refl _), Nat.sub_self]
      rfl
    obtain ⟨_, htake⟩ := Path.take_of_fillFrom h (Path.getElem?_eq_each hout hopen hindex)
    have hlength : ∀ k : Int, (a ++ [Segment.index k]).length = a.length + 1 := fun _ => List.length_append
    rw [List.prefix_iff_eq_take, hlength] at hfound hp
    rw [← hfound, ← hp, List.append_cancel_left_eq] at htake
    injection htake with hsegment
    injection hsegment with heq
    exact hij heq.symm
  refine ⟨fun hfound => ?_, hinto⟩
  rcases List.prefix_concat_iff.mp hfound with rfl | hfound
  · exact hinto (List.prefix_refl _)
  · exact hpast (hout ▸ hfound.map Segment.outline)

/-- What a reference without indices reads from one element is the same over data that differs in another one. -/
theorem Value.readAt_of_elsewhere {data other : Value} {a p target : Path} {i j : Int}
    (hdiffer : DifferAt (a ++ [.index j]) data other) (hp : a ++ [.index i] <+: p) (hij : i ≠ j)
    (hopen : ∀ k, .index k ∉ target) (hpast : ¬ target.outline <+: a.outline) :
    data.readAt target p = other.readAt target p :=
  Value.readAt_congr fun _ hfound => Edit.follow_eq hdiffer (Path.apart_of_fill hp hij hopen hpast hfound)

namespace Form

variable {form : Form} {data other : Value} {document : Value}

/-! ### The places -/

/-- Places outside of what differs are reached over both. -/
theorem reaches_of_differAt {e p : Path} (hdiffer : DifferAt e data other) (hp : form.Reaches data p)
    (he : ¬ e <+: p) : form.Reaches other p := by
  induction hp with
  | root => exact .root
  | child _ hfield hc ih => exact .child (ih fun h => he (h.trans (List.prefix_append _ _))) hfield hc
  | @element q info item items i _ hfield hitems hi ih =>
    have hq : ¬ e <+: q := fun h => he (h.trans (List.prefix_append _ _))
    -- The array has as many elements as before, also where one of them differs.
    obtain ⟨others, hothers, hlength⟩ : ∃ others, other.follow q = .list others ∧ i < others.length := by
      by_cases hway : q <+: e
      · obtain ⟨r, rfl⟩ := hway
        have hr : r ≠ [] := by
          rintro rfl
          exact hq (by rw [List.append_nil])
        have hshape : SameShape (data.follow q) (other.follow q) := (Edit.follow hdiffer).sameShape hr
        rw [hitems] at hshape
        generalize other.follow q = w at hshape
        cases hshape with
        | list hlength => exact ⟨_, rfl, hlength ▸ hi⟩
      · exact ⟨items, by rw [← Edit.follow_eq hdiffer ⟨hway, hq⟩, hitems], hi⟩
    exact .element (ih hq) hfield hothers hlength

/-- What a visit to a reached place finds. -/
theorem mem_visits_of_reaches (hplaced : form.root.Placed []) {p : Path} {field : Field} (hp : form.Reaches data p)
    (hfield : form.fieldAt? p = some field) : ⟨p, field, data.follow p⟩ ∈ form.root.visits data := by
  obtain ⟨v, hv, rfl⟩ := hp.exists_visit hplaced
  have hsame : v.field = field := Option.some.inj ((fieldAt?_of_mem_visits hplaced hv).symm.trans hfield)
  rw [← hsame, Field.follow_of_mem_visits hv]
  exact hv

/-! ### What is said about another element -/

section Element

variable {s : Setting} {a p : Path} {info : FieldInfo} {item : Field} {i j : Int}
  (hkeys : document.keysOnce = true) (hform : Form.ofDocument Registry.standard document = .ok form)
  (harray : form.root.at? a = some (.array info item)) (hpast : item.RefersPast a)
  (hdiffer : DifferAt (a ++ [.index j]) s.data other) (hij : i ≠ j)

include harray in
/-- The fields at places in an element are the item and those below it. -/
theorem mem_item_of_below {f : Field} (hp : a ++ [.index i] <+: p) (hf : form.root.at? p = some f) :
    f ∈ item.preorder := by
  obtain ⟨r, rfl⟩ := hp
  rw [List.append_assoc, Field.at?_append, harray, Option.bind_some] at hf
  have hitem : item.at? r = some f := hf
  exact Field.mem_preorder_of_at? hitem

include harray in
theorem mem_root_of_mem_item {f : Field} (hf : f ∈ item.preorder) : f ∈ form.root.preorder := by
  have hitem : item ∈ form.root.preorder :=
    Field.mem_preorder_of_part (Field.mem_preorder_of_at? harray) (List.mem_singleton_self item)
  exact Field.mem_preorder_trans hitem hf

include hkeys hform harray hpast hdiffer hij in
/-- What the references in an element read is the same. -/
theorem readAt_of_mem_item {f : Field} (hf : f ∈ item.preorder) {reference : String × Path}
    (hr : reference ∈ f.info.stored) (hp : a ++ [.index i] <+: p) :
    s.data.readAt reference.2 p = other.readAt reference.2 p := by
  have hmem : f ∈ form.root.preorder := mem_root_of_mem_item harray hf
  obtain ⟨hwritten, hplace⟩ := hpast f hf reference hr
  refine Value.readAt_of_elsewhere hdiffer hp hij (fun k hk => ?_) hplace
  rcases Field.index_mem_of_resolve (resolve_of_mem_stored hform hmem hr).1 hk with hbase | ⟨written, hread, hindex⟩
  · rw [← outline_place hkeys hform hmem] at hbase
    exact Path.index_not_mem_outline _ k hbase
  · rcases hwritten written (by rw [hread]; rfl) _ hindex with hname | heach
    · cases hname
    · cases heach

include hkeys hform harray hpast hdiffer hij in
/-- The conditions on the way to a place in an element say the same: those in the element read the same, and those
around it read nothing of the array. -/
theorem takesPart_of_differAt {q : Path} {f : Field} (hp : a ++ [.index i] <+: p) (hq : q <+: p)
    (hf : form.root.at? q = some f) :
    (s.withData other).takesPart q f.info.condition = s.takesPart q f.info.condition := by
  refine Setting.takesPart_withData fun condition hcondition c hc => ?_
  obtain ⟨target, htarget, hapart⟩ := exists_apart_target hkeys hform hf hcondition hc
  have hread : s.data.readAt target q = other.readAt target q := by
    by_cases hin : a ++ [.index i] <+: q
    · have hstored := FieldInfo.mem_stored_of_target hcondition hc htarget
      exact readAt_of_mem_item hkeys hform harray hpast hdiffer hij (mem_item_of_below harray hin hf) hstored hin
    · -- The field is the array or something around it.
      have hway : q <+: a := by
        rcases List.prefix_or_prefix_of_prefix hq hp with hqa | haq
        · rcases List.prefix_concat_iff.mp hqa with rfl | hqa
          · exact absurd (List.prefix_refl _) hin
          · exact hqa
        · exact absurd haq hin
      have helement : q.dropIndices <+: a ++ [.index j] :=
        (Path.dropIndices_prefix q).trans (hway.trans (List.prefix_append a _))
      refine Value.readAt_congr fun found hfound => Edit.follow_eq hdiffer ?_
      exact (hapart found (Path.outline_of_fill hfound)).extend helement
  exact ⟨target, htarget, by rw [hread]⟩

include hkeys hform harray hpast hdiffer hij in
/-- The rules of a field in an element find the same. -/
theorem findings_of_differAt (hs : s.registry = Registry.standard) {f : Field} (hf : f ∈ item.preorder)
    (hp : a ++ [.index i] <+: p) (raw : Value) :
    (s.withData other).findings f p raw = s.findings f p raw := by
  have hmem : f ∈ form.root.preorder := mem_root_of_mem_item harray hf
  have hverdict : ∀ rule ∈ s.rulesOf f, (s.withData other).verdictOf f p (f.seen raw) rule
      = s.verdictOf f p (f.seen raw) rule := by
    intro rule hrule
    rcases Setting.mem_rulesOf hrule with hdeclared | ⟨rfl, _⟩
    · obtain ⟨definition, hdefinition, _⟩ := (isDeclared_of_mem hform hmem).rules rule hdeclared
      have hlinked := (isLinked_of_mem hform hmem).rules rule hdeclared
      refine Setting.verdictOf_of_readsAlike hs hdefinition ?_ _
      refine Setting.readsAlike_of_linked hlinked hdefinition fun reference hr => ?_
      have hstored := FieldInfo.mem_stored_of_rule hdeclared hr
      exact readAt_of_mem_item hkeys hform harray hpast hdiffer hij hf hstored hp
    · refine Setting.verdictOf_of_readsAlike hs rfl ?_ _
      exact Setting.readsAlike_of_linked (DeclaredRule.number_isLinked form.root) rfl (List.forall_mem_nil _)
  rw [Setting.findings, Setting.findings]
  show (s.withData other).firstFinding f p (f.seen raw) (s.rulesOf f) >>= _ = _
  rw [Setting.firstFinding_congr hverdict]

include hkeys hform harray hpast hdiffer hij in
/-- The report on a place in an element is the same. -/
theorem reportFrom_of_differAt (hs : s.registry = Registry.standard) {v : Visit} (hp : a ++ [.index i] <+: v.path)
    (hfield : form.root.at? v.path = some v.field) :
    (s.withData other).reportFrom [] false form.root v = s.reportFrom [] false form.root v := by
  have hoff : (s.withData other).isOff form.root [] v.path = s.isOff form.root [] v.path :=
    Setting.isOff_congr fun q f hq hf => takesPart_of_differAt hkeys hform harray hpast hdiffer hij hp hq hf
  have hitem : v.field ∈ item.preorder := mem_item_of_below harray hp hfield
  exact Setting.reportFrom_congr hoff
    (findings_of_differAt hkeys hform harray hpast hdiffer hij hs hitem hp v.raw)

include hkeys hform harray hpast hij in
/-- What one evaluation says about a place in an element, the other one says too. -/
theorem mem_reports_of_differAt {implicitNumber : Bool} {language : Option String} {data : Value}
    {reports others : List Report} (hdiffer : DifferAt (a ++ [.index j]) data other)
    (hreports : form.evaluate Registry.standard implicitNumber data language = .ok reports)
    (hothers : form.evaluate Registry.standard implicitNumber other language = .ok others) {r : Report}
    (hp : a ++ [.index i] <+: r.path) (hr : r ∈ reports) : r ∈ others := by
  have hplaced := root_placed hkeys hform
  obtain ⟨v, hv, hreport⟩ := exists_visit_of_mem hplaced hreports hr
  have hpath : r.path = v.path := by
    obtain ⟨_, _, _, _, rfl⟩ := (Setting.reportFrom_eq_ok_iff _).mp hreport
    rfl
  rw [hpath] at hp
  have hfield : form.fieldAt? v.path = some v.field := fieldAt?_of_mem_visits hplaced hv
  have happart : v.path.Apart (a ++ [.index j]) := by
    refine Path.Apart.symm ((Path.apart_append_iff.mpr ?_).extend hp)
    exact Path.apart_of_ne (fun h => hij (by injection h with h; exact h.symm))
  -- The other evaluation comes to the same place and finds the same value there.
  have hvisit : v ∈ form.root.visits other := by
    have hreached : form.Reaches other v.path :=
      reaches_of_differAt hdiffer ((mem_visits_iff_reaches hplaced).mp ⟨v, hv, rfl⟩) happart.2
    have hmem := mem_visits_of_reaches hplaced hreached hfield
    rwa [← Edit.follow_eq hdiffer happart, Field.follow_of_mem_visits hv] at hmem
  rw [evaluate_eq_mapM hplaced] at hothers
  obtain ⟨t, ht, hother⟩ := exists_mem_of_mapM hothers hvisit
  have hsame := reportFrom_of_differAt (s := ⟨Registry.standard, implicitNumber, data, language⟩) hkeys hform harray
    hpast hdiffer hij rfl hp (fieldAt?_eq_at? form v.path ▸ hfield)
  rw [hreport] at hsame
  rw [Except.ok.inj (hsame.symm.trans hother)]
  exact ht

end Element

/-- **The elements of an array are evaluated apart.**  Two evaluations of data that differs in one element of an array
say the same about all places in each other element, if no reference of a field in the elements is written with an
index or means the array or something around it. -/
theorem elements_apart (hkeys : document.keysOnce = true)
    (hform : Form.ofDocument Registry.standard document = .ok form) {a : Path} {info : FieldInfo} {item : Field}
    (harray : form.fieldAt? a = some (.array info item)) (hpast : item.RefersPast a) {j : Int}
    (hdiffer : DifferAt (a ++ [.index j]) data other) {implicitNumber : Bool} {language : Option String}
    {reports others : List Report}
    (hreports : form.evaluate Registry.standard implicitNumber data language = .ok reports)
    (hothers : form.evaluate Registry.standard implicitNumber other language = .ok others) :
    ∀ i : Int, i ≠ j → reports.filter (fun r => Path.leadsTo (a ++ [.index i]) r.path)
      = others.filter fun r => Path.leadsTo (a ++ [.index i]) r.path := by
  intro i hij
  have hplaced := root_placed hkeys hform
  rw [fieldAt?_eq_at?] at harray
  have hordered : ∀ {data : Value} {reports : List Report},
      form.evaluate Registry.standard implicitNumber data language = .ok reports →
      ((reports.filter fun r => Path.leadsTo (a ++ [.index i]) r.path).map Report.path).Pairwise form.Before := by
    intro data reports h
    exact (paths_increasing hplaced h).sublist (List.filter_sublist.map Report.path)
  refine reports_ext (hordered hreports) (hordered hothers) fun r => ?_
  rw [List.mem_filter, List.mem_filter, Path.leadsTo_iff]
  refine and_congr_left fun hp => ⟨fun hr => ?_, fun hr => ?_⟩
  · exact mem_reports_of_differAt hkeys hform harray hpast hij hdiffer hreports hothers hp hr
  · exact mem_reports_of_differAt hkeys hform harray hpast hij hdiffer.symm hothers hreports hp hr

/-- A form for sessions, each with a code to be repeated, and with a reason that is asked for codes which need one. -/
def sessions : Value :=
  .object [("type", .text "group"), ("properties", .object [
    ("reserved", .object [("type", .text "text")]),
    ("sessions", .object [("type", .text "array"), ("items", .object [("type", .text "group"),
      ("properties", .object [
        ("code", .object [("type", .text "text"), ("rules", .object [("notEqual", .text "..reserved")])]),
        ("again", .object [("type", .text "text"), ("rules", .object [("match", .text "sessions.code")])]),
        ("reason", .object [("type", .text "text"), ("condition", .text ".code == late"),
          ("rules", .object [("required", .bool true)])])])])])])]

/-- A session. -/
def session (code again : String) : Value :=
  .object [("code", .text code), ("again", .text again)]

/-- Three sessions, of which the second one is given. -/
def threeSessions (second : Value) : Value :=
  .object [("reserved", .text "x"), ("sessions", .list [session "late" "late", second, session "a" "b"])]

/-- Whatever becomes of the second of three sessions, the same is said about the third one, which has another code
than it repeats. -/
theorem elements_apart_in_sessions : ∃ form reports others,
    Form.ofDocument Registry.standard sessions = .ok form ∧
    form.evaluate Registry.standard true (threeSessions (session "x" "y")) none = .ok reports ∧
    form.evaluate Registry.standard true (threeSessions .null) none = .ok others ∧
    failedAt reports ≠ failedAt others ∧
    [.name "sessions", .index 2, .name "again"] ∈ failedAt reports ∧
    reports.filter (fun r => Path.leadsTo [.name "sessions", .index 2] r.path)
      = others.filter fun r => Path.leadsTo [.name "sessions", .index 2] r.path := by
  have hrun : ((Form.ofDocument Registry.standard sessions).toOption.bind fun form =>
      (form.evaluate Registry.standard true (threeSessions (session "x" "y")) none).toOption.bind fun reports =>
        (form.evaluate Registry.standard true (threeSessions .null) none).toOption.bind fun others =>
          ((form.fieldAt? [.name "sessions"]).bind Field.item?).map fun item =>
            (decide (item.RefersPast [.name "sessions"]), failedAt reports, failedAt others)) =
      some (true,
        [[.name "sessions", .index 0, .name "reason"], [.name "sessions", .index 1, .name "code"],
          [.name "sessions", .index 1, .name "again"], [.name "sessions", .index 2, .name "again"]],
        [[.name "sessions", .index 0, .name "reason"], [.name "sessions", .index 2, .name "again"]]) := by
    decide +kernel
  obtain ⟨form, hform, hrun⟩ := exists_eq_ok_of_bind hrun
  obtain ⟨reports, hreports, hrun⟩ := exists_eq_ok_of_bind hrun
  obtain ⟨others, hothers, hrun⟩ := exists_eq_ok_of_bind hrun
  obtain ⟨item, hitem, hrun⟩ := Option.map_eq_some_iff.mp hrun
  obtain ⟨field, harray, hitem⟩ := Option.bind_eq_some_iff.mp hitem
  simp only [Prod.mk.injEq, decide_eq_true_eq] at hrun
  obtain ⟨hpast, hfailed, hothersFailed⟩ := hrun
  have hdiffer : DifferAt ([.name "sessions"] ++ [.index (1 : Nat)]) (threeSessions (session "x" "y"))
      (threeSessions .null) := by
    have hreserved : ∀ e ∈ [("reserved", Value.text "x")], e.1 ≠ "sessions" := by decide
    exact .entry hreserved (@Edit.member _ _ [session "late" "late"] _ _ _ (.here trivial))
  refine ⟨form, reports, others, hform, hreports, hothers, ?_, ?_, ?_⟩
  · rw [hfailed, hothersFailed]
    decide
  · rw [hfailed]
    decide
  · cases field with
    | array info element =>
      cases hitem
      exact elements_apart (by decide +kernel) hform harray hpast hdiffer hreports hothers 2 (by decide)
    | leaf => cases hitem
    | group => cases hitem

end Form

end FormCheck
