import ChuckLight.Lighting.RigFollows
import ChuckLight.Threads.Workers

/-!
# What a pass leaves alone

A pass shows something on lights and goes on in its animation.  The highlight
thread keeps its list of lights and the values it has saved.
-/

namespace ChuckLight

open Java

/-- The objects differ at most in how far their animation is. -/
def WorkerField.Alike : (k : WorkerField) → k.Object → k.Object → Prop
  | .highlight, t, t' =>
      t'.lights = t.lights ∧ t'.savedValues = t.savedValues
  | _, _, _ => True

theorem WorkerField.alike_of_ne {k : WorkerField} (h : k ≠ .highlight)
    (t t' : k.Object) : k.Alike t t' := by
  cases k with
  | highlight => exact absurd rfl h
  | _ => trivial

theorem WorkerField.Alike.refl (k : WorkerField) (t : k.Object) :
    k.Alike t t := by
  cases k with
  | highlight => exact ⟨rfl, rfl⟩
  | _ => trivial

theorem WorkerField.Alike.trans {k : WorkerField} {t t' t'' : k.Object}
    (h : k.Alike t t') (h' : k.Alike t' t'') : k.Alike t t'' := by
  cases k with
  | highlight => exact ⟨h'.1.trans h.1, h'.2.trans h.2⟩
  | _ => trivial

namespace Stage

theorem rig_of_ok {α β : Type} {x : Run Rig α} {s : Stage β} {a : α}
    {r : Rig} (h : x s.1 = .ok a r) : rig x s = .ok a (r, s.2) := by
  unfold Stage.rig Java.zoom
  rw [h]

theorem rig_of_error {α β : Type} {x : Run Rig α} {s : Stage β} {e : Abrupt}
    {r : Rig} (h : x s.1 = .error e r) :
    (rig x : Run (Stage β) α) s = .error e (r, s.2) := by
  unfold Stage.rig Java.zoom
  rw [h]

theorem snd_of_rig_eq_ok {α β : Type} {x : Run Rig α} {st st' : Stage β}
    {a : α} (h : rig x st = .ok a st') : st'.2 = st.2 := by
  unfold Stage.rig Java.zoom at h
  cases hrun : x st.1 with
  | ok b r =>
      rw [hrun] at h
      cases h
      rfl
  | error e r =>
      rw [hrun] at h
      cases h

/-- The lights may show something else, and the animation may be further. -/
structure Follows (k : WorkerField) (st st' : Stage k.Object) : Prop where
  rig : st.1.Follows st'.1
  object : k.Alike st.2 st'.2

variable {k : WorkerField} {st : Stage k.Object} {α : Type}

theorem Follows.refl (k : WorkerField) (st : Stage k.Object) :
    Follows k st st := ⟨Rig.Follows.refl _, WorkerField.Alike.refl k _⟩

theorem follows_rig {c : Rig → Prop} {x : Run Rig α} (hx : Rig.Shows c x) :
    Preserves (Follows k st) (rig x) := by
  intro st' h
  unfold Stage.rig Java.zoom
  cases hrun : x st'.1 with
  | ok a r => exact ⟨h.rig.trans ((hx st'.1).of_ok rfl hrun), h.object⟩
  | error e r =>
      exact ⟨h.rig.trans ((hx st'.1).of_error rfl hrun).1, h.object⟩

theorem follows_callLight {c : FixtureProfile → Prop} {x : Run Light α}
    (hx : Light.Calm c x) (light : ℕ) :
    Preserves (Follows k st) (rig (Rig.callLight light x)) :=
  follows_rig (Rig.shows_callLight hx light)

theorem follows_update {f : k.Object → k.Object} (hf : ∀ t, k.Alike t (f t)) :
    Preserves (Follows k st) (update f) :=
  Preserves.modify fun st' h => ⟨h.rig, h.object.trans (hf st'.2)⟩

/-- Only the highlight thread has something to keep. -/
theorem follows_update_of_ne (hk : k ≠ .highlight)
    (f : k.Object → k.Object) : Preserves (Follows k st) (update f) :=
  follows_update fun _ => WorkerField.alike_of_ne hk _ _

theorem follows_forLights {lights : Option (List ℕ)}
    {body : ℕ → Run (Stage k.Object) Unit}
    (hbody : ∀ light, Preserves (Follows k st) (body light)) :
    Preserves (Follows k st) (forLights lights body) :=
  (Preserves.orThrow _ _).bind fun _ => Preserves.forM fun light _ =>
    hbody light

/-- The lights may show something else, and the object may be any. -/
def Beside {β : Type} (r : Rig) (st : Stage β) : Prop := r.Follows st.1

variable {r : Rig}

theorem beside_of_follows {x : Run (Stage k.Object) α}
    (hx : ∀ st, Preserves (Follows k st) x) : Preserves (Beside r) x := by
  intro st h
  cases hrun : x st with
  | ok a st' => exact h.trans ((hx st).of_ok (Follows.refl k st) hrun).rig
  | error e st' => exact h.trans ((hx st).of_error (Follows.refl k st) hrun).rig

theorem beside_update {β : Type} (f : β → β) :
    Preserves (Beside r) (update f) :=
  Preserves.modify fun _ h => h

end Stage

open Stage

/-! ## Highlight -/

namespace HighlightThread

variable {st : Stage HighlightThread}

theorem follows_acquire : Preserves (Follows .highlight st) acquire := by
  refine Preserves.get_bind fun _ => Preserves.ite ?_ (Preserves.throw _)
  exact follows_update fun _ => ⟨rfl, rfl⟩

theorem follows_release : Preserves (Follows .highlight st) release :=
  follows_update (k := .highlight) fun _ => ⟨rfl, rfl⟩

theorem follows_setUpdateDefaultColor :
    Preserves (Follows .highlight st) setUpdateDefaultColor := by
  refine follows_acquire.bind fun _ => ?_
  refine Preserves.bind (follows_update fun _ => ⟨rfl, rfl⟩) fun _ => ?_
  exact follows_release

theorem follows_refreshColor (light : ℕ) :
    Preserves (Follows .highlight st) (refreshColor light) := by
  refine (follows_callLight Light.calm_syncLight light).bind fun _ => ?_
  refine (follows_callLight Light.calm_hasColor light).bind fun _ => ?_
  refine Preserves.ite ?_ (Preserves.pure _)
  refine (follows_rig (Rig.reads_fixture light).shows).bind fun _ => ?_
  exact Preserves.catchIOException
    (follows_callLight (Light.calm_setChannelManual _ _) light)
    (Preserves.throw _)

theorem alike_turn (t : HighlightThread) :
    WorkerField.highlight.Alike t (turn t) := by
  unfold turn
  split_ifs <;> exact ⟨rfl, rfl⟩

theorem follows_dim (light : ℕ) :
    Preserves (Follows .highlight st) (dim light) := by
  refine Preserves.bind (follows_update alike_turn) fun _ => ?_
  refine Preserves.catchIOException ?_ (Preserves.pure _)
  refine Preserves.bind (follows_update fun _ => ⟨rfl, rfl⟩) fun _ => ?_
  exact Preserves.get_bind fun _ =>
    follows_callLight (Light.calm_setDimmerValue _) light

theorem follows_passLight (light : ℕ) :
    Preserves (Follows .highlight st) (passLight light) :=
  Preserves.get_bind fun _ => Preserves.ite
    ((follows_refreshColor light).bind fun _ => follows_dim light)
    (follows_dim light)

theorem follows_pass : Preserves (Follows .highlight st) pass := by
  refine follows_acquire.bind fun _ => Preserves.get_bind fun _ => ?_
  refine (Preserves.forM fun light _ => follows_passLight light).bind
    fun _ => ?_
  refine Preserves.bind (follows_update fun _ => ⟨rfl, rfl⟩) fun _ => ?_
  exact follows_release

variable {r : Rig}

theorem beside_acquire : Preserves (Beside r) acquire :=
  beside_of_follows (k := .highlight) fun _ => follows_acquire

theorem beside_release : Preserves (Beside r) release :=
  beside_update _

theorem beside_addLight (light : ℕ) : Preserves (Beside r) (addLight light) :=
  Preserves.get_bind fun _ => Preserves.ite
    (beside_acquire.bind fun _ => (beside_update _).bind fun _ =>
      (beside_of_follows (k := .highlight) fun _ =>
        follows_rig (Rig.reads_getDMXVals light).shows).bind fun _ =>
          (beside_update _).bind fun _ => beside_release) (Preserves.pure _)

theorem beside_removeLight (light : ℕ) :
    Preserves (Beside r) (removeLight light) := by
  refine Preserves.get_bind fun _ => Preserves.ite ?_ (Preserves.pure _)
  refine beside_acquire.bind fun _ => ?_
  refine Preserves.bind (Preserves.catchIOException ?_ (Preserves.throw _))
    fun _ => (beside_update _).bind fun _ => beside_release
  refine Preserves.get_bind fun _ => (Preserves.orThrow _ _).bind
    fun saved => (beside_update _).bind fun _ => ?_
  exact beside_of_follows (k := .highlight) fun _ =>
    follows_callLight (Light.calm_setDMXVals saved) light

theorem beside_removeAll (n : ℕ) : Preserves (Beside r) (removeAll n) := by
  induction n with
  | zero => exact Preserves.pure _
  | succ n ih =>
      refine Preserves.get_bind fun st => ?_
      cases st.2.lights with
      | nil => exact Preserves.pure _
      | cons light rest => exact (beside_removeLight light).bind fun _ => ih

theorem beside_redrum : Preserves (Beside r) redrum :=
  Preserves.get_bind fun _ => (beside_removeAll _).bind fun _ =>
    Preserves.pure _

end HighlightThread

/-! ## The other classes -/

theorem RainbowThread.follows_pass {st : Stage RainbowThread} :
    Preserves (Follows .rainbowVisual st) pass := by
  refine Preserves.bind ?_ ?_
  · exact follows_update_of_ne (by decide) _
  intro _
  refine Preserves.get_bind fun _ => ?_
  refine Preserves.bind (Preserves.arrayGet _ _) fun _ => ?_
  refine Preserves.bind (follows_update_of_ne (by decide) _) fun _ => ?_
  refine follows_forLights fun light => ?_
  refine Preserves.catchIOException ?_ (Preserves.pure _)
  exact (follows_callLight (Light.calm_setColor _) light).bind fun _ =>
    follows_callLight (Light.calm_setDimmerValue _) light

theorem DMXVisualThread.follows_pass {st : Stage DMXVisualThread} :
    Preserves (Follows .dmxVisual st) pass := by
  refine Preserves.get_bind fun _ => Preserves.bind ?_ fun _ =>
    follows_update_of_ne (by decide) _
  refine follows_forLights fun light => ?_
  refine Preserves.catchIOException ?_ (Preserves.pure _)
  refine (follows_callLight (Light.calm_setWhite _) light).bind fun _ => ?_
  refine Preserves.bind (follows_update_of_ne (by decide) _) fun _ => ?_
  exact Preserves.get_bind fun _ =>
    follows_callLight (Light.calm_setDimmerValue _) light

theorem PresetVisualThread.follows_pass {st : Stage PresetVisualThread} :
    Preserves (Follows .presetVisual st) pass := by
  refine Preserves.get_bind fun _ => Preserves.bind ?_ fun _ =>
    follows_update_of_ne (by decide) _
  refine follows_forLights fun light => ?_
  refine Preserves.catchIOException ?_ (Preserves.pure _)
  refine Preserves.bind (Preserves.arrayGet _ _) fun _ => ?_
  exact (follows_callLight (Light.calm_setColor _) light).bind fun _ =>
    follows_callLight (Light.calm_setDimmerValue _) light

theorem ChaseThread.follows_pass (m : SceneManager) {st : Stage ChaseThread} :
    Preserves (Follows .chase st) (pass m) := by
  refine Preserves.get_bind fun st' => ?_
  cases st'.2.iterator with
  | none => exact follows_update_of_ne (by decide) _
  | some p =>
      refine Preserves.ite (follows_update_of_ne (by decide) _)
        (Preserves.ite (Preserves.throw _) ?_)
      refine Preserves.bind (Preserves.arrayGet _ _) fun scene => ?_
      refine Preserves.bind (follows_update_of_ne (by decide) _) fun _ => ?_
      exact Preserves.catchIOException
        (follows_rig (Rig.shows_setAllDMX scene)) (Preserves.pure _)

/-- A pass only shows something and goes on in its animation. -/
theorem WorkerField.follows_pass (m : SceneManager) (k : WorkerField)
    (st : Stage k.Object) : Preserves (Follows k st) (k.pass m) := by
  cases k with
  | chase => exact ChaseThread.follows_pass m
  | highlight => exact HighlightThread.follows_pass
  | presetVisual => exact PresetVisualThread.follows_pass
  | rainbowVisual => exact @RainbowThread.follows_pass st
  | dmxVisual => exact DMXVisualThread.follows_pass

end ChuckLight
