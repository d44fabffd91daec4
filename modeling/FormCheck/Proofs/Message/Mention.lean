import FormCheck.Proofs.Fallible
import FormCheck.Proofs.Message.Names

/-!
# What a message mentions

A message is its template with the holes filled, so it depends on those values only that its holes name.

* `Piece.mentions`, `mentions` — a hole with a name, also one in the layout of another hole;
* `fillTemplate_congr` — **proved**: a value that a template does not mention does not change the message;
* `Wording.errorOf_withValue` — **proved**: in particular, where the value itself is not mentioned, the error about
  another value differs from this one in nothing but the value.
-/

namespace FormCheck

open Fallible

namespace Message

/-- A part of a template mentions a name, where `inLayout` tells about layouts. -/
def Piece.mentions (inLayout : List Char → Bool) (name : String) : Piece → Bool
  | .literal _ => false
  | .hole inner _ layout =>
    String.ofList (inner.takeWhile isNameChar) == name || (layout.contains '\x7b' && inLayout layout)

/-- A template mentions a name, in a hole or in a layout as far down as the depth allows. -/
def mentionsAt (name : String) : Nat → List Char → Bool
  | 0, _ => false
  | depth + 1, template =>
    match piecesOf? template with
    | some pieces => pieces.any (Piece.mentions (mentionsAt name depth) name)
    | none => false

/-- A template mentions a name. -/
def mentions (name : String) (template : String) : Bool :=
  mentionsAt name nestingDepth template.toList

variable {values others : String → Option String} {name : String}

/-- A hole under another name is filled alike. -/
theorem named?_congr (h : ∀ n, n ≠ name → values n = others n) {inner : List Char}
    (hname : (String.ofList (inner.takeWhile isNameChar) == name) = false) :
    named? values inner = named? others inner := by
  rw [named?, named?, h _ (by simpa using hname)]

/-- A part of a template with its hole filled, where `inLayout` fills the holes in a layout. -/
def fillPiece? (values : String → Option String) (inLayout : List Char → Option (List Char)) :
    Piece → Option (List Char)
  | .literal c => some [c]
  | .hole inner conversion layout => do
    let facet ← named? values inner
    let facet ← converted? conversion facet
    let layout ← if layout.contains '\x7b' then inLayout layout else some layout
    laidOut? facet layout

theorem fill?_succ (values : String → Option String) (depth : Nat) (template : List Char) :
    fill? values (depth + 1) template = do
      let pieces ← piecesOf? template
      let parts ← pieces.mapM (fillPiece? values (fill? values depth))
      return parts.flatten := by
  rw [fill?]
  rfl

/-- A part of a template that does not mention a name is filled alike whatever the name stands for. -/
theorem fillPiece?_congr (h : ∀ n, n ≠ name → values n = others n) {f g : List Char → Option (List Char)}
    {inLayout : List Char → Bool} (hlayouts : ∀ layout, inLayout layout = false → f layout = g layout)
    {piece : Piece} (hpiece : piece.mentions inLayout name = false) :
    fillPiece? values f piece = fillPiece? others g piece := by
  cases piece with
  | literal c => rfl
  | hole inner conversion layout =>
    rw [Piece.mentions, Bool.or_eq_false_iff, Bool.and_eq_false_iff] at hpiece
    obtain ⟨hhole, hlayout⟩ := hpiece
    rw [fillPiece?, fillPiece?, named?_congr h hhole]
    refine bind_congr fun facet => bind_congr fun facet => ?_
    rcases hlayout with hplain | hinner
    · rw [hplain]
      rfl
    · rw [hlayouts layout hinner]

theorem fill?_congr (h : ∀ n, n ≠ name → values n = others n) (depth : Nat) {template : List Char}
    (hmentions : mentionsAt name depth template = false) :
    fill? values depth template = fill? others depth template := by
  induction depth generalizing template with
  | zero => rw [fill?, fill?]
  | succ depth ih =>
    rw [mentionsAt] at hmentions
    rw [fill?_succ, fill?_succ]
    cases hpieces : piecesOf? template with
    | none => rw [Option.bind_eq_bind, Option.bind_none, Option.bind_eq_bind, Option.bind_none]
    | some pieces =>
      rw [hpieces] at hmentions
      have hparts : pieces.mapM (fillPiece? values (fill? values depth))
          = pieces.mapM (fillPiece? others (fill? others depth)) := by
        refine Fallible.mapM_congr fun piece hpiece => fillPiece?_congr h (fun _ => ih) ?_
        exact Bool.eq_false_iff.mpr (List.any_eq_false.mp hmentions piece hpiece)
      rw [Option.bind_eq_bind, Option.bind_some, hparts, Option.bind_eq_bind, Option.bind_some]

/-- **A value that a template does not mention does not change the message.** -/
theorem fillTemplate_congr (h : ∀ n, n ≠ name → values n = others n) {template : String}
    (hmentions : mentions name template = false) :
    fillTemplate values template = fillTemplate others template := by
  rw [fillTemplate, fillTemplate, fill?_congr h nestingDepth hmentions]

end Message

open Message

/-- The same failure, on another value. -/
def Finding.withValue (finding : Finding) (v : Value) : Finding :=
  { finding with value := v }

/-- The names about another value stand for the same texts, but for the value itself. -/
theorem Finding.names_withValue {finding : Finding} {v : Value} {label : String} {names : List (String × String)}
    (hnames : finding.names label = .ok names) (hv : ¬ v.HasLongNumber) :
    ∃ others, (finding.withValue v).names label = .ok others ∧
      ∀ name, name ≠ "value" → entryOf? others name = entryOf? names name := by
  obtain ⟨entries, hentries, hnames⟩ := bind_eq_ok_iff.mp hnames
  obtain ⟨params, hparams, hnames⟩ := bind_eq_ok_iff.mp hnames
  obtain ⟨value, _, hnames⟩ := bind_eq_ok_iff.mp hnames
  obtain ⟨param, hparam, hnames⟩ := bind_eq_ok_iff.mp hnames
  obtain ⟨other, hother⟩ := v.shown_fails.exists_ok hv
  obtain rfl := Except.ok.inj hnames
  refine ⟨_, bind_eq_ok_iff.mpr ⟨entries, hentries, bind_eq_ok_iff.mpr ⟨params, hparams,
    bind_eq_ok_iff.mpr ⟨other, hother, bind_eq_ok_iff.mpr ⟨param, hparam, rfl⟩⟩⟩⟩, fun name hname => ?_⟩
  simp only [entryOf?_append, entryOf?_cons, if_neg (Ne.symm hname)]
  rfl

namespace Wording

/-- The message about a finding mentions the value. -/
def mentionsValue (w : Wording) (language : String) (info : FieldInfo) (finding : Finding) : Bool :=
  mentions "value" (w.template finding info language).1

/-- **Where the message does not mention the value, it is the same about another value**, if there is a message about
both or about neither. -/
theorem message_withValue {w : Wording} {language : String} {info : FieldInfo} {finding : Finding}
    (h : w.mentionsValue language info finding = false) {v : Value}
    (hv : (finding.withValue v).HasLongNumber ↔ finding.HasLongNumber) :
    w.message (finding.withValue v) info language = w.message finding info language := by
  refine Prod.ext ?_ rfl
  by_cases hlong : finding.HasLongNumber
  · rw [(w.message_fails language info finding _).mpr ⟨hlong, rfl⟩,
      (w.message_fails language info _ _).mpr ⟨hv.mpr hlong, rfl⟩]
  · obtain ⟨names, hnames⟩ := (finding.names_fails (info.labelFor (some language) (some w.defaultLanguage))).exists_ok hlong
    have hwritten : ¬ v.HasLongNumber := fun hvalue => hlong (hv.mp (.inl hvalue))
    obtain ⟨others, hothers, hsame⟩ := Finding.names_withValue hnames hwritten
    show Except.map _ ((finding.withValue v).names _) = Except.map _ (finding.names _)
    rw [hnames, hothers]
    exact congrArg Except.ok (fillTemplate_congr hsame h)

/-- The error about another value, and the questions to the resolver, differ from the ones before in nothing but
the value. -/
theorem errorOf_withValue {w : Wording} {language : String} {info : FieldInfo} {finding : Finding}
    (h : w.mentionsValue language info finding = false) {v : Value}
    (hv : (finding.withValue v).HasLongNumber ↔ finding.HasLongNumber) :
    w.errorOf language info (finding.withValue v)
      = ((w.errorOf language info finding).1.map fun e => { e with value := v },
          (w.errorOf language info finding).2) := by
  rw [errorOf, errorOf, message_withValue h hv]
  cases w.message finding info language with
  | mk message questions => cases message <;> rfl

end Wording

end FormCheck
