import ChuckLight.Threads.Steady

/-!
# The modes below the light selection

The control selection and the three modes that it leads to start and stop
visuals and edit the selected lights.  Whatever is invariant in each of these
modes follows the server through them, until the light selection starts again.
-/

namespace ChuckLight.Server

open Java Connection LightingDefines

/-- The control selection and the modes that it leads to. -/
def Below (mode : Mode) : Prop :=
  mode ∈ [.CONTROL_SELECTION, .COLOR_WHEEL, .DMX, .PRESET]

instance (mode : Mode) : Decidable (Below mode) :=
  inferInstanceAs (Decidable (_ ∈ _))

/-- What is invariant in each mode leads to `post`, in a mode below the light
selection and when the light selection starts again. -/
structure Passage (inv : Mode → Server → Prop) (post : Server → Prop) :
    Prop where
  working : ∀ mode, Working (inv mode)
  setState : ∀ mode mode', Leads (inv mode) (setState mode') (inv mode')
  below : ∀ mode s, Below mode → inv mode s → post s
  highlight : Leads (inv .LIGHT_SELECTION) startHighlight post

namespace Passage

variable {inv : Mode → Server → Prop} {post : Server → Prop} {mode : Mode}
  (h : Passage inv post)

include h

/-- A method that stays in the mode, and the result of the handler. -/
theorem stay (hmode : Below mode) {x : Run Server Unit} {beat : Bool}
    (hx : Preserves (inv mode) x) :
    Leads (inv mode) (do x; return beat) post :=
  (hx.leads.mono fun s => h.below mode s hmode).returning

theorem pure (hmode : Below mode) {beat : Bool} :
    Leads (inv mode) (pure beat) post :=
  Leads.pure beat fun s => h.below mode s hmode

/-- A mode that is entered at last. -/
theorem enter (mode mode' : Mode) (hmode' : Below mode') :
    Leads (inv mode) (Server.setState mode') post :=
  (h.setState mode mode').mono fun s => h.below mode' s hmode'

theorem controlEnter (index : ℤ) :
    Leads (inv .CONTROL_SELECTION) (controlEnter index) post := by
  have hworking := h.working .CONTROL_SELECTION
  refine Leads.ite (fun _ => ?_) fun _ => ?_
  · refine (hworking.redrum .dmxVisual).leads.bind fun _ => ?_
    refine hworking.revertScene.leads.bind fun _ => ?_
    exact (hworking.modifyChannelIndex _).leads.bind fun _ =>
      h.enter _ .DMX (by decide)
  refine Leads.ite (fun _ => ?_) fun _ => Leads.ite (fun _ => ?_) fun _ => ?_
  · exact (hworking.redrum .rainbowVisual).leads.bind fun _ =>
      h.enter _ .COLOR_WHEEL (by decide)
  · exact (hworking.redrum .presetVisual).leads.bind fun _ =>
      h.enter _ .PRESET (by decide)
  · exact Leads.pure _ fun s => h.below _ s (by decide)

theorem controlSelectionMode (c : WirelessCommand) :
    Leads (inv .CONTROL_SELECTION) (controlSelectionMode c) post := by
  have hmode : Below .CONTROL_SELECTION := by decide
  have hworking := h.working .CONTROL_SELECTION
  have hlight := h.working .LIGHT_SELECTION
  unfold Server.controlSelectionMode
  refine Leads.ite (fun _ => h.pure hmode) fun _ => ?_
  refine Leads.ite (fun _ => Leads.get_bind fun _ _ =>
    h.stay hmode (hworking.controlLeft _)) fun _ => ?_
  refine Leads.ite (fun _ => Leads.get_bind fun _ _ =>
    h.stay hmode (hworking.controlRight _)) fun _ => ?_
  refine Leads.ite (fun _ => Leads.get_bind fun _ _ =>
    (h.controlEnter _).returning) fun _ => ?_
  refine Leads.ite (fun _ => ?_) fun _ => h.pure hmode
  refine (h.setState _ .LIGHT_SELECTION).bind fun _ => ?_
  refine Leads.get_bind fun _ _ => ?_
  refine (hlight.redrumControl _).leads.bind fun _ => ?_
  exact hlight.revertScene.leads.bind fun _ => h.highlight.returning

variable {c : WirelessCommand}

theorem colorWheelMode (colorConverter : XYConverter)
    (hconfirm : c.userActionData = B1 →
      Leads (inv .COLOR_WHEEL) confirm post) :
    Leads (inv .COLOR_WHEEL) (colorWheelMode colorConverter c) post := by
  have hmode : Below .COLOR_WHEEL := by decide
  unfold Server.colorWheelMode
  refine Leads.ite (fun _ => ?_) fun _ => ?_
  · refine Leads.ite (fun hB1 => (hconfirm hB1).returning) fun _ => ?_
    refine Leads.ite (fun _ => ?_) fun _ => h.pure hmode
    refine (h.setState _ .CONTROL_SELECTION).bind fun _ => ?_
    exact h.stay (by decide) (h.working _).startRainbow
  refine Leads.ite (fun _ => ?_) fun _ => h.pure hmode
  exact (Preserves.orThrow _ _).leads.bind fun p =>
    h.stay hmode ((h.working _).showColor colorConverter p.1 p.2)

theorem dmxMode
    (hconfirm : c.userActionData = B1 → Leads (inv .DMX) confirm post) :
    Leads (inv .DMX) (dmxMode c) post := by
  have hmode : Below .DMX := by decide
  have hworking := h.working .DMX
  unfold Server.dmxMode
  refine Leads.ite (fun _ => h.pure hmode) fun _ => ?_
  refine Leads.ite (fun _ => h.stay hmode hworking.channelLeft) fun _ => ?_
  refine Leads.ite (fun _ => h.stay hmode hworking.channelRight) fun _ => ?_
  refine Leads.ite (fun _ => h.stay hmode (hworking.changeChannel _ _))
    fun _ => ?_
  refine Leads.ite (fun _ => h.stay hmode (hworking.changeChannel _ _))
    fun _ => ?_
  refine Leads.ite (fun hB1 => (hconfirm hB1).returning) fun _ => ?_
  refine Leads.ite (fun _ => ?_) fun _ => ?_
  · refine (h.setState _ .CONTROL_SELECTION).bind fun _ => ?_
    refine (h.working _).revertScene.leads.bind fun _ => ?_
    exact h.stay (by decide) (h.working _).startDMXVisual
  exact Leads.ite (fun _ => h.stay hmode hworking.clearLights)
    fun _ => h.pure hmode

theorem presetMode
    (hconfirm : c.userActionData = B1 → Leads (inv .PRESET) confirm post) :
    Leads (inv .PRESET) (presetMode c) post := by
  have hmode : Below .PRESET := by decide
  have hworking := h.working .PRESET
  unfold Server.presetMode
  refine Leads.ite (fun _ => ?_) fun _ => ?_
  · exact hworking.presetLeft.leads.bind fun _ =>
      h.stay hmode hworking.showPreset
  refine Leads.ite (fun _ => ?_) fun _ => ?_
  · exact hworking.presetRight.leads.bind fun _ =>
      h.stay hmode hworking.showPreset
  refine Leads.ite (fun hB1 => (hconfirm hB1).returning) fun _ => ?_
  refine Leads.ite (fun _ => ?_) fun _ => h.pure hmode
  refine (h.setState _ .CONTROL_SELECTION).bind fun _ => ?_
  exact h.stay (by decide) (h.working _).startPresetVisual

end Passage

end ChuckLight.Server
