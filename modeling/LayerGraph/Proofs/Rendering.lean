import LayerGraph.Node.Access
import LayerGraph.Proofs.Blame
import LayerGraph.Proofs.Value.Entries

/-! # Rendering

    A template that has been read fails in two ways only: a placeholder is left without a value, or
    a value has no text. With a value under every placeholder the text is that of its segments one
    after the other, and is there if all values have texts. Values are put in as they are shown, and
    braces in them mean nothing (`renderSource_shown`).
-/

namespace LayerGraph

variable {others : Failure → Prop}

namespace Template

/-- With a value under every placeholder the segments are put together one by one. -/
theorem render_eq {t : Template} {values : Entries}
    (hpresent : ∀ name ∈ t.segments.filterMap (·.placeholder), (values.get? name).isSome = true) :
    t.render values = orNoText (String.join <$> t.segments.mapM (renderSegment values)) := by
  have hnone : (t.placeholders.filter fun name => (values.get? name).isNone) = [] := by
    rw [List.filter_eq_nil_iff]
    intro name hname
    have hfound := hpresent name (Text.mem_distinct.1 hname)
    rw [Option.isNone_eq_false_iff.2 hfound]
    exact Bool.false_ne_true
  unfold render
  rw [hnone]
  rfl

/-- With a value that has a text under every placeholder a template can be rendered. -/
theorem isFair_render {t : Template} {values : Entries}
    (hpresent : ∀ name ∈ t.segments.filterMap (·.placeholder), (values.get? name).isSome = true)
    (hvalues : ∀ entry ∈ values, entry.2.HasText others) :
    IsFairUpTo others (t.render values) := by
  have hsegments : IsWrittenUpTo others (t.segments.mapM (renderSegment values)) := by
    refine FailsWith.mapM fun segment _ => ?_
    unfold renderSegment
    cases hvalue : segment.placeholder.bind values.get? with
    | none => exact FailsWith.ok _
    | some value =>
      obtain ⟨name, _, hfound⟩ := Option.bind_eq_some_iff.1 hvalue
      have htext := hvalues (name, value) (Entries.mem_of_get? hfound)
      exact htext.isWritten_display.bind fun text _ => FailsWith.ok _
  rw [render_eq hpresent]
  exact IsWrittenUpTo.isFair (hsegments.map String.join)

end Template

/-- The text of a segment with what is shown in place of its placeholder. -/
def Segment.filled (shown : String → String) (segment : Segment) : String :=
  segment.text ++ (segment.placeholder.map shown).getD ""

namespace Template

theorem renderSegment_shown {values : Entries} {shown : String → String} {segment : Segment}
    (h : ∀ name, segment.placeholder = some name →
      ∃ v, values.get? name = some v ∧ v.display = .ok (shown name)) :
    renderSegment values segment = .ok (segment.filled shown) := by
  unfold renderSegment Segment.filled
  cases hplaceholder : segment.placeholder with
  | none => exact congrArg Except.ok (String.append_empty).symm
  | some name =>
    obtain ⟨v, hv, hshown⟩ := h name hplaceholder
    rw [Option.bind_some, hv]
    dsimp only
    rw [hshown]
    rfl

/-- With a value that is shown for every placeholder the segments are filled one by one. -/
theorem render_shown {t : Template} {values : Entries} {shown : String → String}
    (h : ∀ name ∈ t.segments.filterMap (·.placeholder),
      ∃ v, values.get? name = some v ∧ v.display = .ok (shown name)) :
    t.render values = .ok (String.join (t.segments.map (·.filled shown))) := by
  have hsegments : t.segments.mapM (renderSegment values) =
      .ok (t.segments.map (·.filled shown)) := by
    refine Result.mapM_eq_ok_map fun segment hsegment => renderSegment_shown fun name hname => ?_
    exact h name (List.mem_filterMap.2 ⟨segment, hsegment, hname⟩)
  rw [render_eq, hsegments]
  · rfl
  · intro name hname
    obtain ⟨v, hv, _⟩ := h name hname
    rw [hv]
    rfl

end Template

theorem renderSource_eq {source : String} {segments : List Segment}
    (hsource : Template.segmentsOf source = .ok segments) (name : String) (values : Entries) :
    renderSource name source values = Template.render ⟨name, segments⟩ values := by
  unfold renderSource Template.read
  rw [hsource]
  rfl

theorem renderSource_shown {source : String} {segments : List Segment}
    (hsource : Template.segmentsOf source = .ok segments) (name : String) {values : Entries}
    {shown : String → String}
    (h : ∀ name ∈ segments.filterMap (·.placeholder),
      ∃ v, values.get? name = some v ∧ v.display = .ok (shown name)) :
    renderSource name source values = .ok (String.join (segments.map (·.filled shown))) := by
  rw [renderSource_eq hsource]
  exact Template.render_shown h

/-- Texts are put into a template as they are. -/
theorem renderSource_text {source : String} {segments : List Segment}
    (hsource : Template.segmentsOf source = .ok segments) (name : String) {values : Entries}
    (h : ∀ name ∈ segments.filterMap (·.placeholder), ∃ s, values.get? name = some (.str s)) :
    renderSource name source values = .ok (String.join (segments.map (·.filled values.text))) := by
  refine renderSource_shown hsource name fun key hkey => ?_
  obtain ⟨s, hs⟩ := h key hkey
  refine ⟨.str s, hs, ?_⟩
  unfold Entries.text
  rw [hs]
  rfl

theorem isFair_renderSource {source : String} {segments : List Segment}
    (hsource : Template.segmentsOf source = .ok segments) (name : String) {values : Entries}
    (hpresent : ∀ name ∈ segments.filterMap (·.placeholder), (values.get? name).isSome = true)
    (hvalues : ∀ entry ∈ values, entry.2.HasText others) :
    IsFairUpTo others (renderSource name source values) := by
  rw [renderSource_eq hsource]
  exact Template.isFair_render hpresent hvalues

end LayerGraph
