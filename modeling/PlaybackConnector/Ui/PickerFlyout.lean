import PlaybackConnector.App.AdaptiveResourcePolicy
import PlaybackConnector.Transition.System

/-!
# The flyout of the device picker

`TrayController` shows the device picker in a flyout, a new one each time, whose content is a view
that is kept, preloaded and released independently of it. The framework raises `Opened`, `Closing`
and `Closed` for a flyout when it wants to: after `ShowAt` or `Hide`, in these calls, or because
the user has clicked elsewhere. The controller follows it with `m_pickerFlyoutState`, and puts off
the settings window and the release of the view until the flyout is closed. Everything happens on
the thread of the user interface; what the adaptive resources do in between is what
`AdaptiveResourcePolicy::Evaluate` decides.

Of the framework it is assumed that it raises `Closed` after `Closing`, `Opened` not after
`Closing`, and nothing for a flyout that is not shown; that `Hide` has no effect when it throws, and
does nothing for a flyout that is not shown. What no code reads comes last in the state.
-/

namespace PlaybackConnector

namespace PickerFlyout

/-- Source: `PickerFlyoutState` (`TrayController.hpp:145`). -/
inductive PickerFlyoutState
  | closed | opening | opened | closing
deriving Repr, DecidableEq

/-- A flyout that the framework shows, and what it has raised for it. -/
structure Screen where
  flyout : Nat
  /-- Its content. -/
  view : Nat
  opened : Bool := false
  closing : Bool := false
deriving Repr, DecidableEq

/-- Source: the data members of `TrayController` (`TrayController.hpp:106`). -/
structure Picker where
  /-- `m_pickerFlyout`. -/
  flyout : Option Nat := none
  flyoutState : PickerFlyoutState := .closed
  /-- `m_devicePickerView`. -/
  view : Option Nat := none
  /-- `m_presentationActive` of the view. -/
  presentationActive : Bool := false
  preloadInitialized : Bool := false
  releasePending : Bool := false
  refreshPending : Bool := false
  openSettingsAfterClosed : Bool := false
  suppressNextTraySelect : Bool := false
  lastClosedOverTrayIconTick : Nat := 0
  openedGeneration : Nat := 0
  tearingDown : Bool := false
  /-- `m_policy` of `AdaptiveResourceController`. -/
  policy : AdaptiveResourcePolicy
  /-- The flyouts that the framework shows. -/
  screens : List Screen := []
  flyoutsCreated : Nat := 0
  viewsCreated : Nat := 0
  /-- The requests for the settings since these were last shown. -/
  unserved : Nat := 0
  settingsShown : Nat := 0
deriving Repr, DecidableEq

/-- What `Evaluate` finds when the controller calls it. -/
structure Surroundings where
  /-- `m_resourceStateChangedCallback` is set. -/
  observed : Bool
  /-- What it knows of the resources. What it asks the controller is not part of this. -/
  pressure : AdaptiveResourcePolicyInput
  now : TimePoint
  /-- A view can be created, and loads the devices. -/
  creates : Bool
  loads : Bool
deriving Repr, DecidableEq

/-- What the framework raises in a call of `Hide`. -/
inductive Raised
  | nothing
  | closing
  | closed (overTrayIcon : Bool) (tick : Nat) (around : Surroundings)
deriving Repr, DecidableEq

/-- What comes of a call of `Hide`. -/
inductive HideOutcome
  /-- It throws; `loads` says that the view then loads the devices. -/
  | fails (loads : Bool) (around : Surroundings)
  | hides (raised : Raised)
deriving Repr, DecidableEq

/-! ## The view -/

/-- Source: `EnsureDevicePickerViewCreated` (`TrayController.cpp:691`). -/
def ensureView (creates : Bool) (s : Picker) : Bool × Picker :=
  match s.view with
  | some _ => (true, s)
  | none =>
    if creates then
      (true, { s with
        view := some s.viewsCreated
        viewsCreated := s.viewsCreated + 1
        presentationActive := false
        releasePending := false })
    else (false, s)

/-- Source: `PreloadDevicePicker` (`TrayController.cpp:735`). -/
def preload (around : Surroundings) (s : Picker) : Picker :=
  if s.tearingDown ∨ s.preloadInitialized then s
  else
    match ensureView around.creates s with
    | (false, s) => s
    | (true, s) => { s with preloadInitialized := s.preloadInitialized || around.loads }

/-- Source: `ReleaseDevicePickerOnUIThread` (`TrayController.cpp:860`). -/
def releaseOnUiThread (s : Picker) : Picker :=
  match s.view with
  | none => { s with preloadInitialized := false, releasePending := false }
  | some _ =>
    { s with
      view := none
      presentationActive := false
      preloadInitialized := false
      releasePending := false
      refreshPending := false }

/-- What `Evaluate` of `AdaptiveResourceController` asks the controller.
Source: `Evaluate` (`AdaptiveResourceController.cpp:190`). -/
def input (userInteraction : Bool) (pressure : AdaptiveResourcePolicyInput) (s : Picker) :
    AdaptiveResourcePolicyInput :=
  { pressure with
    uiVisible := s.flyoutState ≠ .closed
    userInteraction := userInteraction
    uiResourcesLoaded := s.view.isSome
    uiResourcesInitialized := s.view.isSome && s.preloadInitialized }

/-- Source: `NotifyResourceStateChanged` (`TrayController.cpp:991`), `Evaluate`
(`AdaptiveResourceController.cpp:169`). A picker that is not closed is visible, and then not
released (`notify_visible`). -/
def notify (userInteraction : Bool) (around : Surroundings) (s : Picker) : Picker :=
  if !around.observed then s
  else
    let evaluated := s.policy.evaluate (input userInteraction around.pressure s) around.now
    let s := { s with policy := evaluated.1 }
    match evaluated.2.action with
    | .none => s
    | .preloadUi => preload around s
    | .releaseUi => if s.tearingDown then s else releaseOnUiThread s

/-! ## What the framework raises -/

/-- The handler of `Closing`. Source: `CreatePickerFlyout` (`TrayController.cpp:929`). -/
def onClosing (flyout : Nat) (s : Picker) : Picker :=
  if s.tearingDown ∨ s.flyout ≠ some flyout then s
  else
    match s.view with
    | none => { s with flyoutState := .closing }
    | some _ => { s with flyoutState := .closing, presentationActive := false }

/-- The callback of `ShowSettings`. -/
def showSettings (s : Picker) : Picker :=
  { s with unserved := 0, settingsShown := s.settingsShown + 1 }

/-- The part of the handler of `Closed` in which the view is released.
Source: `CreatePickerFlyout` (`TrayController.cpp:972`). -/
def settleRelease (around : Surroundings) (s : Picker) : Picker :=
  let s := notify false around s
  if s.releasePending then releaseOnUiThread s else s

/-- The handler of `Closed`. Source: `CreatePickerFlyout` (`TrayController.cpp:952`). -/
def onClosed (flyout : Nat) (overTrayIcon : Bool) (tick : Nat) (around : Surroundings)
    (s : Picker) : Picker :=
  if s.tearingDown ∨ s.flyout ≠ some flyout then s
  else
    let s :=
      if overTrayIcon then
        { s with lastClosedOverTrayIconTick := tick, suppressNextTraySelect := true }
      else s
    let s := { s with flyoutState := .closed, flyout := none, refreshPending := false }
    let s := settleRelease around s
    if s.openSettingsAfterClosed then showSettings { s with openSettingsAfterClosed := false }
    else s

/-- The framework raises `Closing` for a flyout. -/
def raiseClosing (screen : Screen) (s : Picker) : Picker :=
  onClosing screen.flyout
    { s with screens := { screen with closing := true } :: s.screens.erase screen }

/-- The framework raises `Closed` for a flyout. -/
def raiseClosed (screen : Screen) (overTrayIcon : Bool) (tick : Nat) (around : Surroundings)
    (s : Picker) : Picker :=
  onClosed screen.flyout overTrayIcon tick around { s with screens := s.screens.erase screen }

/-- What is raised in a call of `Hide` for a flyout that is shown. -/
def Raised.raise (screen : Screen) (s : Picker) : Raised → Picker
  | .nothing => s
  | .closing => if screen.closing then s else raiseClosing screen s
  | .closed overTrayIcon tick around =>
    let s := if screen.closing then s else raiseClosing screen s
    raiseClosed { screen with closing := true } overTrayIcon tick around s

/-! ## Hiding -/

/-- `Hide` is to be called. -/
def Picker.hiding (s : Picker) : Picker := { s with flyoutState := .closing }

/-- `Hide` has thrown. Source: `restoreVisiblePresentation` (`TrayController.cpp:831`). -/
def Picker.restored (previousState : PickerFlyoutState) (loads : Bool) (s : Picker) : Picker :=
  match s.view with
  | none => { s with flyoutState := previousState }
  | some _ =>
    { s with
      flyoutState := previousState
      presentationActive := true
      refreshPending := s.refreshPending || !loads }

/-- The call of `Hide` for a flyout that is shown. Source: `TryHideDevicePicker`
(`TrayController.cpp:845`). -/
def hideShown (outcome : HideOutcome) (screen : Screen) (s : Picker) : Picker :=
  match outcome with
  | .fails loads around => notify true around (s.hiding.restored s.flyoutState loads)
  | .hides raised => raised.raise screen s.hiding

/-- Source: `TryHideDevicePicker` (`TrayController.cpp:825`). -/
def tryHide (outcome : HideOutcome) (s : Picker) : Picker :=
  match s.flyout with
  | none => s
  | some flyout =>
    if s.flyoutState = .closed ∨ s.flyoutState = .closing then s
    else
      match s.screens.find? (·.flyout = flyout) with
      | none => s.hiding
      | some screen => hideShown outcome screen s

/-- The settings are asked for. -/
def Picker.requestSettings (s : Picker) : Picker :=
  { s with openSettingsAfterClosed := true, unserved := s.unserved + 1 }

/-- Source: `ShowSettingsAfterPickerClosed` (`TrayController.cpp:815`). -/
def showSettingsAfterPickerClosed (outcome : HideOutcome) (s : Picker) : Picker :=
  if s.tearingDown then s
  else
    let s := tryHide outcome s.requestSettings
    if s.openSettingsAfterClosed ∧ s.flyoutState ≠ .closing then
      showSettings { s with openSettingsAfterClosed := false }
    else s

/-- Source: `ReleaseDevicePicker` (`TrayController.cpp:784`). -/
def release (outcome : HideOutcome) (s : Picker) : Picker :=
  if s.tearingDown ∨ s.view = none then s
  else if s.flyoutState ≠ .closed then
    let s := { s with releasePending := true }
    if s.flyout.isSome ∧ s.flyoutState ≠ .closing then tryHide outcome s else s
  else releaseOnUiThread s

/-! ## Refreshing -/

/-- Source: `RefreshDevicePickerState` (`TrayController.cpp:516`). -/
def refresh (renders : Bool) (s : Picker) : Bool × Picker :=
  if s.tearingDown ∨ s.view = none then (true, s)
  else if s.flyoutState = .opening then (true, { s with refreshPending := true })
  else if s.flyoutState ≠ .opened then (true, s)
  else if s.flyout = none then (false, s)
  else (renders, s)

/-- The handler of `Opened`. Source: `CreatePickerFlyout` (`TrayController.cpp:901`). -/
def onOpened (flyout : Nat) (renders : Bool) (s : Picker) : Picker :=
  if s.tearingDown ∨ s.flyout ≠ some flyout then s
  else
    let s :=
      { s with
        flyoutState := .opened
        openedGeneration := (s.openedGeneration + 1) % 2 ^ 64 }
    if s.refreshPending then
      match refresh renders { s with refreshPending := false } with
      | (true, s) => s
      | (false, s) => { s with refreshPending := true }
    else s

/-- The framework raises `Opened` for a flyout. -/
def raiseOpened (screen : Screen) (renders : Bool) (s : Picker) : Picker :=
  onOpened screen.flyout renders
    { s with screens := { screen with opened := true } :: s.screens.erase screen }

/-! ## Showing -/

/-- What comes of a call of `ShowAt`. -/
inductive ShowAt
  | fails
  /-- `Opened` is to be raised. -/
  | shows
  /-- It is raised in the call. -/
  | opens (renders : Bool)
deriving Repr, DecidableEq

/-- What comes of the calls of one `ShowDevicePicker`. -/
structure Showing where
  /-- `GetIconRect` and `Content` find something, or nothing, or one of them throws. -/
  anchor : Option Bool
  creates : Bool
  createsFlyout : Bool
  /-- `LoadDevices` throws or not. -/
  loads : Option Bool
  showAt : ShowAt
  hide : HideOutcome
  tick : Nat
  /-- For the first and the second call of `NotifyResourceStateChanged`. -/
  around : Surroundings
  around' : Surroundings
deriving Repr, DecidableEq

/-- The picker is not shown. Source: `ShowDevicePicker` (`TrayController.cpp:367`). -/
def notShown (around : Surroundings) (s : Picker) : Picker :=
  notify false around
    { s with flyoutState := .closed, flyout := none, refreshPending := false }

/-- Another exception. Source: `ShowDevicePicker` (`TrayController.cpp:391`). -/
def unexpected (showing : Showing) (s : Picker) : Picker :=
  notShown showing.around' (tryHide showing.hide s)

/-- The suppression of a click. Source: `ShowDevicePicker` (`TrayController.cpp:287`). -/
def suppress (toggleIfOpen : Bool) (tick : Nat) (s : Picker) : Bool × Picker :=
  if s.suppressNextTraySelect then
    let elapsedSinceDismiss : Nat :=
      (tick + (2 ^ 64 - s.lastClosedOverTrayIconTick)) % 2 ^ 64
    (elapsedSinceDismiss < 2000 && toggleIfOpen, { s with suppressNextTraySelect := false })
  else (false, s)

/-- A flyout is created. -/
def Picker.withFlyout (s : Picker) : Picker :=
  { s with
    flyout := some s.flyoutsCreated
    flyoutsCreated := s.flyoutsCreated + 1
    presentationActive := true }

/-- The view has loaded the devices, or not. -/
def Picker.loaded (loads : Bool) (s : Picker) : Picker :=
  { s with preloadInitialized := s.preloadInitialized || loads }

/-- The flyout is created and shown. Source: `ShowDevicePicker` (`TrayController.cpp:315`). -/
def present (showing : Showing) (view : Nat) (s : Picker) : Bool × Picker :=
  if !showing.createsFlyout then (false, notShown showing.around' s)
  else
    match showing.loads with
    | none => (false, unexpected showing { s.withFlyout with presentationActive := false })
    | some loads =>
      let screen : Screen := ⟨s.flyoutsCreated, view, false, false⟩
      let s := notify true showing.around (s.withFlyout.loaded loads)
      match showing.showAt with
      | .fails => (false, { notShown showing.around' s with presentationActive := false })
      | .shows => (true, { s with screens := screen :: s.screens })
      | .opens renders =>
        (true, raiseOpened screen renders { s with screens := screen :: s.screens })

/-- Source: `ShowDevicePicker` (`TrayController.cpp:271`). -/
def showDevicePicker (toggleIfOpen : Bool) (showing : Showing) (s : Picker) : Bool × Picker :=
  if s.tearingDown then (false, s)
  else if s.flyoutState = .opened ∧ s.flyout.isSome then
    let s := notify true showing.around s
    (true, if toggleIfOpen then tryHide showing.hide s else s)
  else if s.flyoutState ≠ .closed then (false, s)
  else
    match suppress toggleIfOpen showing.tick s with
    | (true, s) => (false, s)
    | (false, s) =>
      match showing.anchor with
      | none => (false, unexpected showing s)
      | some false => (false, s)
      | some true =>
        match ensureView showing.creates s with
        | (false, s) => (false, s)
        | (true, s) =>
          match s.view with
          | none => (false, s)
          | some view =>
            present showing view { s with refreshPending := false, flyoutState := .opening }

/-! ## Events -/

/-- Source: `Teardown` (`TrayController.cpp:130`), on the thread of the user interface. -/
def teardown (raised : Raised) (s : Picker) : Picker :=
  let s := { s with tearingDown := true }
  let s :=
    match s.flyout.bind fun flyout => s.screens.find? (·.flyout = flyout) with
    | none => s
    | some screen => raised.raise screen s
  { s with
    flyout := none
    flyoutState := .closed
    view := none
    presentationActive := false
    preloadInitialized := false
    releasePending := false
    refreshPending := false
    openSettingsAfterClosed := false
    suppressNextTraySelect := false
    lastClosedOverTrayIconTick := 0 }

/-- What happens to the controller. -/
inductive Event
  | show (toggleIfOpen : Bool) (showing : Showing)
  /-- The button of the view that closes it, or a double click. -/
  | hide (outcome : HideOutcome)
  | showSettings (outcome : HideOutcome)
  /-- `Evaluate` is called for another reason. -/
  | evaluate (around : Surroundings)
  | release (outcome : HideOutcome)
  | refresh (renders : Bool)
  | opened (screen : Screen) (renders : Bool)
  | closing (screen : Screen)
  | closed (screen : Screen) (overTrayIcon : Bool) (tick : Nat) (around : Surroundings)
  /-- Another thread calls `Teardown`, which is then still to come to the user interface. -/
  | requestTeardown
  | teardown (raised : Raised)
deriving Repr, DecidableEq

/-- The event can happen. -/
def Enabled (s : Picker) : Event → Prop
  | .opened screen _ => screen ∈ s.screens ∧ screen.opened = false ∧ screen.closing = false
  | .closing screen => screen ∈ s.screens ∧ screen.closing = false
  | .closed screen _ _ _ => screen ∈ s.screens ∧ screen.closing = true
  | _ => True

instance (s : Picker) : ∀ e, Decidable (Enabled s e)
  | .opened .. | .closing _ | .closed .. => inferInstanceAs (Decidable (_ ∧ _))
  | .show .. | .hide _ | .showSettings _ | .evaluate _ | .release _ | .refresh _
  | .requestTeardown | .teardown _ => isTrue trivial

/-- The state after an event. -/
def step (s : Picker) : Event → Picker
  | .show toggleIfOpen showing => (showDevicePicker toggleIfOpen showing s).2
  | .hide outcome => if s.tearingDown then s else tryHide outcome s
  | .showSettings outcome => showSettingsAfterPickerClosed outcome s
  | .evaluate around => notify around.pressure.userInteraction around s
  | .release outcome => release outcome s
  | .refresh renders => (refresh renders s).2
  | .opened screen renders => raiseOpened screen renders s
  | .closing screen => raiseClosing screen s
  | .closed screen overTrayIcon tick around => raiseClosed screen overTrayIcon tick around s
  | .requestTeardown => { s with tearingDown := true }
  | .teardown raised => teardown raised s

end PickerFlyout

/-- The device picker of a `TrayController`, from its initialization on. -/
def pickerFlyout : EventSystem PickerFlyout.Picker PickerFlyout.Event where
  enabled := PickerFlyout.Enabled
  step := PickerFlyout.step

namespace PickerFlyout

instance (s : Picker) (e : Event) : Decidable (pickerFlyout.enabled s e) :=
  inferInstanceAs (Decidable (Enabled s e))

variable {s : Picker} {screen : Screen} {around : Surroundings} {outcome : HideOutcome}
  {userInteraction : Bool}

/-! ## What `Evaluate` changes -/

/-- Everything but the view and what belongs to it is the same. -/
structure Framed (s t : Picker) : Prop where
  flyout : t.flyout = s.flyout
  flyoutState : t.flyoutState = s.flyoutState
  openSettingsAfterClosed : t.openSettingsAfterClosed = s.openSettingsAfterClosed
  tearingDown : t.tearingDown = s.tearingDown
  screens : t.screens = s.screens
  flyoutsCreated : t.flyoutsCreated = s.flyoutsCreated
  unserved : t.unserved = s.unserved
  settingsShown : t.settingsShown = s.settingsShown
  released : t.releasePending = true → s.releasePending = true
  refreshed : t.refreshPending = true → s.refreshPending = true
  active : t.presentationActive = true → s.presentationActive = true
  preloaded : (s.preloadInitialized = true → s.view.isSome) → t.preloadInitialized = true →
    t.view.isSome

theorem Framed.refl (s : Picker) : Framed s s :=
  ⟨rfl, rfl, rfl, rfl, rfl, rfl, rfl, rfl, id, id, id, id⟩

theorem Framed.trans {t u : Picker} (h : Framed s t) (h' : Framed t u) : Framed s u where
  flyout := h'.flyout.trans h.flyout
  flyoutState := h'.flyoutState.trans h.flyoutState
  openSettingsAfterClosed := h'.openSettingsAfterClosed.trans h.openSettingsAfterClosed
  tearingDown := h'.tearingDown.trans h.tearingDown
  screens := h'.screens.trans h.screens
  flyoutsCreated := h'.flyoutsCreated.trans h.flyoutsCreated
  unserved := h'.unserved.trans h.unserved
  settingsShown := h'.settingsShown.trans h.settingsShown
  released := h.released ∘ h'.released
  refreshed := h.refreshed ∘ h'.refreshed
  active := h.active ∘ h'.active
  preloaded := fun hs => h'.preloaded (h.preloaded hs)

theorem framed_ensureView (creates : Bool) (s : Picker) :
    Framed s (ensureView creates s).2 ∧
      ((ensureView creates s).1 = (ensureView creates s).2.view.isSome) := by
  unfold ensureView
  split
  next view hview => exact ⟨.refl s, by simp [hview]⟩
  next hview =>
    split
    · exact ⟨⟨rfl, rfl, rfl, rfl, rfl, rfl, rfl, rfl, nofun, id, nofun, fun _ _ => rfl⟩, rfl⟩
    · exact ⟨.refl s, by simp [hview]⟩

theorem framed_preload (around : Surroundings) (s : Picker) : Framed s (preload around s) := by
  unfold preload
  split
  · exact .refl s
  · obtain ⟨hframed, hview⟩ := framed_ensureView around.creates s
    rcases hensured : ensureView around.creates s with ⟨created, t⟩
    rw [hensured] at hframed hview
    cases created with
    | false => exact hframed
    | true =>
      refine hframed.trans ⟨rfl, rfl, rfl, rfl, rfl, rfl, rfl, rfl, id, id, id, fun _ _ => ?_⟩
      exact hview.symm

theorem framed_releaseOnUiThread (s : Picker) : Framed s (releaseOnUiThread s) := by
  unfold releaseOnUiThread
  split
  · exact ⟨rfl, rfl, rfl, rfl, rfl, rfl, rfl, rfl, nofun, id, id, fun _ => nofun⟩
  · exact ⟨rfl, rfl, rfl, rfl, rfl, rfl, rfl, rfl, nofun, nofun, nofun, fun _ => nofun⟩

theorem framed_notify (userInteraction : Bool) (around : Surroundings) (s : Picker) :
    Framed s (notify userInteraction around s) := by
  have hpolicy : ∀ policy, Framed s { s with policy := policy } :=
    fun _ => ⟨rfl, rfl, rfl, rfl, rfl, rfl, rfl, rfl, id, id, id, id⟩
  unfold notify
  split
  · exact .refl s
  · dsimp only
    split
    · exact hpolicy _
    · exact (hpolicy _).trans (framed_preload around _)
    · split
      · exact hpolicy _
      · exact (hpolicy _).trans (framed_releaseOnUiThread _)

/-- What is visible is not released. -/
theorem action_visible {environment : AdaptiveResourcePolicyInput} {now : TimePoint}
    {policy : AdaptiveResourcePolicy} (h : environment.uiVisible = true) :
    (policy.evaluate environment now).2.action ≠ .releaseUi := by
  simp only [AdaptiveResourcePolicy.evaluate, AdaptiveResourcePolicy.actionFor, h, Bool.true_or,
    if_true, ne_eq, not_true, false_and, if_false]
  repeat' split
  all_goals simp

/-- A view that exists is kept by a preload. -/
theorem preload_view (around : Surroundings) (hview : s.view.isSome) :
    (preload around s).view = s.view ∧
      (preload around s).presentationActive = s.presentationActive ∧
      (preload around s).releasePending = s.releasePending := by
  obtain ⟨view, hsome⟩ := Option.isSome_iff_exists.1 hview
  have hensured : ensureView around.creates s = (true, s) := by simp [ensureView, hsome]
  unfold preload
  rw [hensured]
  split <;> exact ⟨rfl, rfl, rfl⟩

/-- The view of a picker that is not closed is kept. -/
theorem notify_visible (userInteraction : Bool) (around : Surroundings)
    (h : s.flyoutState ≠ .closed) (hview : s.view.isSome) :
    (notify userInteraction around s).view = s.view ∧
      (notify userInteraction around s).presentationActive = s.presentationActive ∧
      (notify userInteraction around s).releasePending = s.releasePending := by
  unfold notify
  split
  · exact ⟨rfl, rfl, rfl⟩
  · dsimp only
    split
    · exact ⟨rfl, rfl, rfl⟩
    · exact preload_view around hview
    next hreleases => exact absurd hreleases (action_visible (by simp [input, h]))

theorem releaseOnUiThread_view (s : Picker) : (releaseOnUiThread s).view = none := by
  unfold releaseOnUiThread
  split
  · assumption
  · rfl

theorem releaseOnUiThread_released (s : Picker) : (releaseOnUiThread s).releasePending = false := by
  unfold releaseOnUiThread
  split <;> rfl

/-- A release that is put off is done or still put off. -/
theorem notify_released (userInteraction : Bool) (around : Surroundings)
    (hpending : s.releasePending = true) (hview : s.view.isSome)
    (hrunning : s.tearingDown = false) : (notify userInteraction around s).view = none ∨
      (notify userInteraction around s).releasePending = true := by
  unfold notify
  split
  · exact .inr hpending
  · dsimp only
    split
    · exact .inr hpending
    · refine .inr (Eq.trans (preload_view around ?_).2.2 hpending)
      exact hview
    · rw [if_neg (by simp [hrunning])]
      exact .inl (releaseOnUiThread_view _)

/-! ## The flyout -/

/-- No flyout is shown, and nothing is put off. -/
structure Rests (s : Picker) : Prop where
  flyout : s.flyout = none
  flyoutState : s.flyoutState = .closed
  screens : s.screens = []
  inactive : s.presentationActive = false
  settled : s.openSettingsAfterClosed = false
  released : s.releasePending = false
  refreshed : s.refreshPending = false

/-- The current flyout is shown, with the current view. -/
structure Presents (screen : Screen) (s : Picker) : Prop where
  flyout : s.flyout = some screen.flyout
  view : s.view = some screen.view
  screens : s.screens = [screen]
  flyoutState : s.flyoutState ≠ .closed
  active : s.presentationActive = !screen.closing
  opening : s.flyoutState = .opening → screen.opened = false
  opened : s.flyoutState = .opened → screen.opened = true
  closing : screen.closing = true → s.flyoutState = .closing

/-- What holds between any two events, until the controller is torn down. -/
structure Inv (s : Picker) : Prop where
  shown : Rests s ∨ ∃ screen, Presents screen s
  settings : s.openSettingsAfterClosed = true ↔ 0 < s.unserved
  preloaded : s.preloadInitialized = true → s.view.isSome

theorem Rests.framed {t : Picker} (h : Rests s) (hframed : Framed s t) : Rests t where
  flyout := hframed.flyout.trans h.flyout
  flyoutState := hframed.flyoutState.trans h.flyoutState
  screens := hframed.screens.trans h.screens
  inactive := by
    rw [← Bool.not_eq_true]
    exact fun hactive => absurd (hframed.active hactive) (by simp [h.inactive])
  settled := hframed.openSettingsAfterClosed.trans h.settled
  released := by
    rw [← Bool.not_eq_true]
    exact fun hreleased => absurd (hframed.released hreleased) (by simp [h.released])
  refreshed := by
    rw [← Bool.not_eq_true]
    exact fun hrefreshed => absurd (hframed.refreshed hrefreshed) (by simp [h.refreshed])

theorem Presents.framed {t : Picker} (h : Presents screen s) (hframed : Framed s t)
    (hview : t.view = s.view) (hactive : t.presentationActive = s.presentationActive) :
    Presents screen t where
  flyout := hframed.flyout.trans h.flyout
  view := hview.trans h.view
  screens := hframed.screens.trans h.screens
  flyoutState := hframed.flyoutState ▸ h.flyoutState
  active := hactive.trans h.active
  opening := hframed.flyoutState ▸ h.opening
  opened := hframed.flyoutState ▸ h.opened
  closing := hframed.flyoutState ▸ h.closing

theorem Presents.notify (h : Presents screen s) (userInteraction : Bool) (around : Surroundings) :
    Presents screen (notify userInteraction around s) := by
  obtain ⟨hview, hactive, -⟩ := notify_visible userInteraction around h.flyoutState
    (by rw [h.view]; rfl)
  exact h.framed (framed_notify _ _ s) hview hactive

theorem Inv.framed {t : Picker} (h : Inv s) (hframed : Framed s t)
    (hshown : Rests t ∨ ∃ screen, Presents screen t) : Inv t where
  shown := hshown
  settings := by
    rw [hframed.openSettingsAfterClosed, hframed.unserved]
    exact h.settings
  preloaded := hframed.preloaded h.preloaded

theorem Inv.notify (h : Inv s) (userInteraction : Bool) (around : Surroundings) :
    Inv (notify userInteraction around s) := by
  refine h.framed (framed_notify _ _ s) ?_
  rcases h.shown with hrests | ⟨screen, hpresents⟩
  · exact .inl (hrests.framed (framed_notify _ _ s))
  · exact .inr ⟨screen, hpresents.notify userInteraction around⟩

/-! ## What the framework has raised -/

/-- What is put off is the same. -/
structure Kept (s t : Picker) : Prop where
  openSettingsAfterClosed : t.openSettingsAfterClosed = s.openSettingsAfterClosed
  unserved : t.unserved = s.unserved
  settingsShown : t.settingsShown = s.settingsShown
  releasePending : t.releasePending = s.releasePending
  view : t.view = s.view
  preloadInitialized : t.preloadInitialized = s.preloadInitialized
  tearingDown : t.tearingDown = s.tearingDown

theorem Inv.presents {t : Picker} (h : Inv s) (hkept : Kept s t) (hpresents : Presents screen t) :
    Inv t where
  shown := .inr ⟨screen, hpresents⟩
  settings := by
    rw [hkept.openSettingsAfterClosed, hkept.unserved]
    exact h.settings
  preloaded := by
    rw [hkept.preloadInitialized, hkept.view]
    exact h.preloaded

theorem presents_raiseClosing (h : Presents screen s) (hrunning : s.tearingDown = false) :
    Presents { screen with closing := true } (raiseClosing screen s) ∧
      Kept s (raiseClosing screen s) := by
  have hraised : raiseClosing screen s =
      { s with
        screens := [{ screen with closing := true }]
        flyoutState := .closing
        presentationActive := false } := by
    simp [raiseClosing, onClosing, hrunning, h.flyout, h.view, h.screens]
  rw [hraised]
  exact ⟨⟨h.flyout, h.view, rfl, nofun, rfl, nofun, nofun, fun _ => rfl⟩,
    ⟨rfl, rfl, rfl, rfl, rfl, rfl, rfl⟩⟩

/-- At the end of a flyout what was put off is done. -/
structure Settled (s t : Picker) : Prop where
  rests : Rests t
  unserved : t.unserved = 0
  settingsShown : t.settingsShown =
    s.settingsShown + if s.openSettingsAfterClosed then 1 else 0
  released : s.releasePending = true → t.view = none
  preloaded : t.preloadInitialized = true → t.view.isSome
  tearingDown : t.tearingDown = false

theorem Settled.inv {t : Picker} (h : Settled s t) : Inv t where
  shown := .inl h.rests
  settings := by
    rw [h.rests.settled, h.unserved]
    exact ⟨nofun, nofun⟩
  preloaded := h.preloaded

theorem framed_settleRelease (around : Surroundings) (s : Picker) :
    Framed s (settleRelease around s) := by
  unfold settleRelease
  dsimp only
  split
  · exact (framed_notify _ _ _).trans (framed_releaseOnUiThread _)
  · exact framed_notify _ _ _

theorem settleRelease_released (around : Surroundings) (s : Picker) :
    (settleRelease around s).releasePending = false := by
  unfold settleRelease
  dsimp only
  split
  · exact releaseOnUiThread_released _
  next hpending => exact Bool.eq_false_iff.2 hpending

theorem settleRelease_view (around : Surroundings) (hpending : s.releasePending = true)
    (hview : s.view.isSome) (hrunning : s.tearingDown = false) :
    (settleRelease around s).view = none := by
  unfold settleRelease
  dsimp only
  split
  · exact releaseOnUiThread_view _
  next hdone =>
    exact (notify_released false around hpending hview hrunning).resolve_right hdone

/-- The end of the handler of `Closed`. -/
theorem settled_closed {t : Picker} (hinv : Inv s) (hkept : Kept s t) (hview : s.view.isSome)
    (hrunning : s.tearingDown = false) (hflyout : t.flyout = none)
    (hstate : t.flyoutState = .closed) (hscreens : t.screens = [])
    (hinactive : t.presentationActive = false) (hrefreshed : t.refreshPending = false)
    (around : Surroundings) :
    Settled s (if (settleRelease around t).openSettingsAfterClosed then
      showSettings { settleRelease around t with openSettingsAfterClosed := false }
      else settleRelease around t) := by
  have hframed := framed_settleRelease around t
  have hopen : (settleRelease around t).openSettingsAfterClosed = s.openSettingsAfterClosed :=
    hframed.openSettingsAfterClosed.trans hkept.openSettingsAfterClosed
  have hinactive' : (settleRelease around t).presentationActive = false := by
    rw [← Bool.not_eq_true]
    exact fun hactive => absurd (hframed.active hactive) (by simp [hinactive])
  have hrefreshed' : (settleRelease around t).refreshPending = false := by
    rw [← Bool.not_eq_true]
    exact fun hpending => absurd (hframed.refreshed hpending) (by simp [hrefreshed])
  have hreleased : s.releasePending = true → (settleRelease around t).view = none := fun hpending =>
    settleRelease_view around (hkept.releasePending.trans hpending) (hkept.view ▸ hview)
      (hkept.tearingDown.trans hrunning)
  have hpreloaded : (settleRelease around t).preloadInitialized = true →
      (settleRelease around t).view.isSome := by
    refine hframed.preloaded ?_
    rw [hkept.preloadInitialized, hkept.view]
    exact hinv.preloaded
  have htearing : (settleRelease around t).tearingDown = false :=
    hframed.tearingDown.trans (hkept.tearingDown.trans hrunning)
  have hshown : (settleRelease around t).settingsShown = s.settingsShown :=
    hframed.settingsShown.trans hkept.settingsShown
  have hunserved : (settleRelease around t).unserved = s.unserved :=
    hframed.unserved.trans hkept.unserved
  have hrests : ∀ settingsShown unserved, Rests { settleRelease around t with
      openSettingsAfterClosed := false, settingsShown := settingsShown, unserved := unserved } :=
    fun _ _ => ⟨hframed.flyout.trans hflyout, hframed.flyoutState.trans hstate,
      hframed.screens.trans hscreens, hinactive', rfl, settleRelease_released around t, hrefreshed'⟩
  split
  next hrequested =>
    have hrequested' : s.openSettingsAfterClosed = true := hopen ▸ hrequested
    exact ⟨hrests _ _, rfl, by simp [showSettings, hshown, hrequested'], hreleased, hpreloaded,
      htearing⟩
  next hnone =>
    have hnone' : (settleRelease around t).openSettingsAfterClosed = false :=
      Bool.eq_false_iff.2 hnone
    have hnone'' : s.openSettingsAfterClosed = false := hopen ▸ hnone'
    have hserved : s.unserved = 0 := by
      have hsettings := hinv.settings
      rw [hnone''] at hsettings
      by_contra hne
      exact absurd (hsettings.2 (Nat.pos_of_ne_zero hne)) Bool.false_ne_true
    refine ⟨?_, hunserved.trans hserved, by simp [hshown, hnone''], hreleased, hpreloaded, htearing⟩
    have hsame := hrests (settleRelease around t).settingsShown (settleRelease around t).unserved
    rw [← hnone'] at hsame
    exact hsame

theorem settled_raiseClosed (h : Presents screen s) (hinv : Inv s)
    (hrunning : s.tearingDown = false) (hclosing : screen.closing = true) (overTrayIcon : Bool)
    (tick : Nat) (around : Surroundings) :
    Settled s (raiseClosed screen overTrayIcon tick around s) := by
  have hscreens : s.screens.erase screen = [] := by simp [h.screens]
  have hcurrent : ¬ (s.tearingDown = true ∨ s.flyout ≠ some screen.flyout) := by
    simp [hrunning, h.flyout]
  have hinactive : s.presentationActive = false := by simp [h.active, hclosing]
  have hview : s.view.isSome := by simp [h.view]
  unfold raiseClosed onClosed
  rw [if_neg hcurrent]
  cases overTrayIcon with
  | false | true =>
    refine settled_closed hinv ?_ hview hrunning ?_ ?_ ?_ ?_ ?_ around
    · exact ⟨rfl, rfl, rfl, rfl, rfl, rfl, rfl⟩
    · rfl
    · rfl
    · exact hscreens
    · exact hinactive
    · rfl

theorem presents_raiseOpened (h : Presents screen s) (hrunning : s.tearingDown = false)
    (hclosing : screen.closing = false) (renders : Bool) :
    Presents { screen with opened := true } (raiseOpened screen renders s) ∧
      Kept s (raiseOpened screen renders s) := by
  have hscreens : s.screens.erase screen = [] := by simp [h.screens]
  have hactive : s.presentationActive = true := by simp [h.active, hclosing]
  have hpresents : ∀ refreshPending, Presents { screen with opened := true }
      { s with
        screens := [{ screen with opened := true }]
        flyoutState := .opened
        openedGeneration := (s.openedGeneration + 1) % 2 ^ 64
        refreshPending := refreshPending } := fun _ =>
    ⟨h.flyout, h.view, rfl, nofun, by simp [hactive, hclosing], nofun, fun _ => rfl,
      fun hraised => absurd hraised (by simp [hclosing])⟩
  have hraised : ∃ refreshPending, raiseOpened screen renders s =
      { s with
        screens := [{ screen with opened := true }]
        flyoutState := .opened
        openedGeneration := (s.openedGeneration + 1) % 2 ^ 64
        refreshPending := refreshPending } := by
    have hcurrent : ¬ (s.tearingDown = true ∨ s.flyout ≠ some screen.flyout) := by
      simp [hrunning, h.flyout]
    unfold raiseOpened onOpened
    rw [if_neg hcurrent]
    rcases hpending : s.refreshPending with _ | _
    · exact ⟨false, by simp [hscreens]⟩
    · refine ⟨!renders, ?_⟩
      cases renders <;> simp [refresh, hscreens, hrunning, h.flyout, h.view]
  obtain ⟨refreshPending, hraised⟩ := hraised
  rw [hraised]
  exact ⟨hpresents refreshPending, ⟨rfl, rfl, rfl, rfl, rfl, rfl, rfl⟩⟩

/-! ## Hiding and showing -/

/-- What is raised in a call of `Hide`. -/
theorem inv_raise (h : Presents screen s) (hinv : Inv s) (hrunning : s.tearingDown = false)
    (hclosing : screen.closing = false) (raised : Raised) :
    Inv (raised.raise screen s) ∧ (raised.raise screen s).tearingDown = false := by
  cases raised with
  | nothing => exact ⟨hinv, hrunning⟩
  | closing =>
    obtain ⟨hpresents, hkept⟩ := presents_raiseClosing h hrunning
    simp only [Raised.raise, hclosing, Bool.false_eq_true, if_false]
    exact ⟨hinv.presents hkept hpresents, hkept.tearingDown.trans hrunning⟩
  | closed overTrayIcon tick around =>
    obtain ⟨hpresents, hkept⟩ := presents_raiseClosing h hrunning
    simp only [Raised.raise, hclosing, Bool.false_eq_true, if_false]
    have hsettled := settled_raiseClosed hpresents (hinv.presents hkept hpresents)
      (hkept.tearingDown.trans hrunning) rfl overTrayIcon tick around
    exact ⟨hsettled.inv, hsettled.tearingDown⟩

/-- The flyout is to be hidden, and the state says so before it is. -/
theorem Presents.hiding (h : Presents screen s) (hclosing : screen.closing = false) :
    Presents screen s.hiding :=
  ⟨h.flyout, h.view, h.screens, nofun, h.active, nofun, nofun,
    fun hraised => absurd hraised (by simp [hclosing])⟩

theorem Presents.restored (h : Presents screen s) (hclosing : screen.closing = false)
    (loads : Bool) : Presents screen (s.hiding.restored s.flyoutState loads) ∧
      Kept s (s.hiding.restored s.flyoutState loads) := by
  have hrestored : s.hiding.restored s.flyoutState loads =
      { s with presentationActive := true, refreshPending := s.refreshPending || !loads } := by
    unfold Picker.restored
    split
    next hnone => exact absurd (hnone.symm.trans h.view) (Option.some_ne_none _).symm
    next => rfl
  rw [hrestored]
  exact ⟨⟨h.flyout, h.view, h.screens, h.flyoutState, by simp [hclosing], h.opening, h.opened,
    h.closing⟩, ⟨rfl, rfl, rfl, rfl, rfl, rfl, rfl⟩⟩

/-- A flyout whose `Closing` was not raised. -/
theorem Presents.unraised (h : Presents screen s) (hstate : s.flyoutState ≠ .closing) :
    screen.closing = false := by
  rw [← Bool.not_eq_true]
  exact fun hraised => hstate (h.closing hraised)

theorem tryHide_none (h : s.flyout = none) (outcome : HideOutcome) : tryHide outcome s = s := by
  unfold tryHide
  rw [h]

theorem tryHide_closing (h : s.flyoutState = .closing) (outcome : HideOutcome) :
    tryHide outcome s = s := by
  unfold tryHide
  split
  · rfl
  · exact if_pos (.inr h)

theorem Presents.tryHide (h : Presents screen s) (hstate : s.flyoutState ≠ .closing)
    (outcome : HideOutcome) : tryHide outcome s = hideShown outcome screen s := by
  have hfound : s.screens.find? (·.flyout = screen.flyout) = some screen := by
    simp [h.screens]
  unfold PickerFlyout.tryHide
  rw [h.flyout]
  dsimp only
  rw [if_neg (not_or.2 ⟨h.flyoutState, hstate⟩), hfound]

theorem inv_tryHide (h : Inv s) (hrunning : s.tearingDown = false) (outcome : HideOutcome) :
    Inv (tryHide outcome s) ∧ (tryHide outcome s).tearingDown = false := by
  rcases h.shown with hrests | ⟨screen, hpresents⟩
  · rw [tryHide_none hrests.flyout]
    exact ⟨h, hrunning⟩
  · by_cases hstate : s.flyoutState = .closing
    · rw [tryHide_closing hstate]
      exact ⟨h, hrunning⟩
    · have hclosing := hpresents.unraised hstate
      rw [hpresents.tryHide hstate]
      cases outcome with
      | fails loads around =>
        obtain ⟨hrestored, hkept⟩ := hpresents.restored hclosing loads
        exact ⟨(h.presents hkept hrestored).notify true around,
          ((framed_notify _ _ _).tearingDown.trans hkept.tearingDown).trans hrunning⟩
      | hides raised =>
        have hhiding := hpresents.hiding hclosing
        exact inv_raise hhiding (h.presents ⟨rfl, rfl, rfl, rfl, rfl, rfl, rfl⟩ hhiding) hrunning
          hclosing raised

theorem inv_showSettings (hinv : Inv s) :
    Inv (showSettings { s with openSettingsAfterClosed := false }) where
  shown := hinv.shown.imp (fun hrests => ⟨hrests.flyout, hrests.flyoutState, hrests.screens,
    hrests.inactive, rfl, hrests.released, hrests.refreshed⟩) fun ⟨screen, hpresents⟩ =>
      ⟨screen, ⟨hpresents.flyout, hpresents.view, hpresents.screens, hpresents.flyoutState,
        hpresents.active, hpresents.opening, hpresents.opened, hpresents.closing⟩⟩
  settings := ⟨nofun, fun h => absurd h (Nat.lt_irrefl 0)⟩
  preloaded := hinv.preloaded

theorem inv_requestSettings (h : Inv s) (hpresents : Presents screen s) :
    Inv s.requestSettings ∧ Presents screen s.requestSettings := by
  have hrequested : Presents screen s.requestSettings :=
    ⟨hpresents.flyout, hpresents.view, hpresents.screens, hpresents.flyoutState, hpresents.active,
      hpresents.opening, hpresents.opened, hpresents.closing⟩
  exact ⟨⟨.inr ⟨screen, hrequested⟩, ⟨fun _ => Nat.succ_pos _, fun _ => rfl⟩, h.preloaded⟩,
    hrequested⟩

theorem inv_showSettingsAfterPickerClosed (h : Inv s) (outcome : HideOutcome) :
    Inv (showSettingsAfterPickerClosed outcome s) := by
  unfold showSettingsAfterPickerClosed
  split
  · exact h
  next hrunning =>
    rcases h.shown with hrests | ⟨screen, hpresents⟩
    · have hshown : Inv (showSettings
          { s.requestSettings with openSettingsAfterClosed := false }) :=
        ⟨.inl ⟨hrests.flyout, hrests.flyoutState, hrests.screens, hrests.inactive, rfl,
          hrests.released, hrests.refreshed⟩, ⟨nofun, fun h => absurd h (Nat.lt_irrefl 0)⟩,
          h.preloaded⟩
      have hstate : s.requestSettings.flyoutState ≠ .closing := by
        rw [show s.requestSettings.flyoutState = .closed from hrests.flyoutState]
        nofun
      dsimp only
      rw [tryHide_none (s := s.requestSettings) hrests.flyout, if_pos ⟨rfl, hstate⟩]
      exact hshown
    · have hhidden := inv_tryHide (inv_requestSettings h hpresents).1
        (Bool.eq_false_iff.2 hrunning) outcome
      dsimp only
      split
      · exact inv_showSettings hhidden.1
      · exact hhidden.1

theorem inv_release (h : Inv s) (outcome : HideOutcome) : Inv (release outcome s) := by
  unfold release
  split
  · exact h
  next hrunning =>
    have hrunning' : s.tearingDown = false := Bool.eq_false_iff.2 (not_or.1 hrunning).1
    rcases h.shown with hrests | ⟨screen, hpresents⟩
    · rw [if_neg (by simp [hrests.flyoutState])]
      have hframed := framed_releaseOnUiThread s
      exact h.framed hframed (.inl (hrests.framed hframed))
    · rw [if_pos hpresents.flyoutState]
      have hpending : Inv { s with releasePending := true } :=
        ⟨.inr ⟨screen, hpresents.flyout, hpresents.view, hpresents.screens, hpresents.flyoutState,
          hpresents.active, hpresents.opening, hpresents.opened, hpresents.closing⟩, h.settings,
          h.preloaded⟩
      dsimp only
      split
      · exact (inv_tryHide hpending hrunning' outcome).1
      · exact hpending

theorem inv_refresh (h : Inv s) (renders : Bool) : Inv (refresh renders s).2 := by
  unfold refresh
  split
  · exact h
  · split
    next hopening =>
      rcases h.shown with hrests | ⟨screen, hpresents⟩
      · exact absurd (hrests.flyoutState.symm.trans hopening) nofun
      · exact ⟨.inr ⟨screen, hpresents.flyout, hpresents.view, hpresents.screens,
          hpresents.flyoutState, hpresents.active, hpresents.opening, hpresents.opened,
          hpresents.closing⟩, h.settings, h.preloaded⟩
    · split
      · exact h
      · split <;> exact h

/-- Nothing is shown, but the picker is about to be. -/
structure Prepared (view : Nat) (s : Picker) : Prop where
  view : s.view = some view
  flyoutState : s.flyoutState = .opening
  screens : s.screens = []
  settled : s.openSettingsAfterClosed = false
  released : s.releasePending = false
  unserved : s.unserved = 0
  preloaded : s.preloadInitialized = true → s.view.isSome

variable {view : Nat}

theorem Prepared.notify (h : Prepared view s) (userInteraction : Bool) (around : Surroundings) :
    Prepared view (notify userInteraction around s) := by
  have hframed := framed_notify userInteraction around s
  obtain ⟨hview, -, hreleased⟩ := notify_visible userInteraction around
    (by rw [h.flyoutState]; nofun) (by rw [h.view]; rfl)
  exact ⟨hview.trans h.view, hframed.flyoutState.trans h.flyoutState,
    hframed.screens.trans h.screens, hframed.openSettingsAfterClosed.trans h.settled,
    hreleased.trans h.released, hframed.unserved.trans h.unserved, hframed.preloaded h.preloaded⟩

/-- A picker that could not be shown rests, and its presentation is not active. -/
theorem Prepared.notShown (h : Prepared view s) (around : Surroundings) :
    Inv { notShown around s with presentationActive := false } := by
  have hframed := framed_notify false around
    { s with flyoutState := .closed, flyout := none, refreshPending := false }
  have hnot : ∀ {P : Bool}, (P = true → False) → P = false := by
    intro P hP
    exact Bool.eq_false_iff.2 hP
  refine ⟨.inl ⟨hframed.flyout, hframed.flyoutState, hframed.screens.trans h.screens, rfl,
    hframed.openSettingsAfterClosed.trans h.settled, hnot fun hreleased => ?_,
    hnot fun hrefreshed => ?_⟩, ?_, hframed.preloaded h.preloaded⟩
  · exact absurd (hframed.released hreleased) (by simp [h.released])
  · exact absurd (hframed.refreshed hrefreshed) Bool.false_ne_true
  · have hsettled := hframed.openSettingsAfterClosed.trans h.settled
    have hunserved := hframed.unserved.trans h.unserved
    simp only [PickerFlyout.notShown, hsettled, hunserved]
    exact ⟨nofun, fun h => absurd h (Nat.lt_irrefl 0)⟩

theorem notShown_inactive (around : Surroundings) (h : s.presentationActive = false) :
    { notShown around s with presentationActive := false } = notShown around s := by
  have hframed := framed_notify false around
    { s with flyoutState := .closed, flyout := none, refreshPending := false }
  have hinactive : (notShown around s).presentationActive = false := by
    rw [← Bool.not_eq_true]
    exact fun hactive => absurd (hframed.active hactive) (by simp [h])
  rw [← hinactive]

/-- `Hide` does nothing for a flyout that is not shown. -/
theorem Prepared.unexpected (h : Prepared view s) (hinactive : s.presentationActive = false)
    (showing : Showing) : Inv (unexpected showing s) := by
  have hhidden : tryHide showing.hide s = s ∨ tryHide showing.hide s = s.hiding := by
    unfold tryHide
    split
    · exact .inl rfl
    · split
      · exact .inl rfl
      · rw [h.screens]
        exact .inr rfl
  have hinv := h.notShown showing.around'
  rw [notShown_inactive showing.around' hinactive] at hinv
  unfold PickerFlyout.unexpected
  rcases hhidden with hhidden | hhidden
  · rw [hhidden]
    exact hinv
  · rw [hhidden]
    exact hinv

/-- The flyout of a picker that was prepared is shown. -/
theorem Prepared.shown (h : Prepared view s) {flyout : Nat} (hflyout : s.flyout = some flyout)
    (hactive : s.presentationActive = true) :
    Presents ⟨flyout, view, false, false⟩
        { s with screens := ⟨flyout, view, false, false⟩ :: s.screens } ∧
      Inv { s with screens := ⟨flyout, view, false, false⟩ :: s.screens } := by
  have hpresents : Presents ⟨flyout, view, false, false⟩
      { s with screens := ⟨flyout, view, false, false⟩ :: s.screens } := by
    refine ⟨hflyout, h.view, by simp [h.screens], ?_, hactive, fun _ => rfl, fun hopened => ?_,
      nofun⟩
    · simp [h.flyoutState]
    · exact absurd (h.flyoutState.symm.trans hopened) nofun
  refine ⟨hpresents, .inr ⟨_, hpresents⟩, ?_, h.preloaded⟩
  simp [h.settled, h.unserved]

theorem Prepared.withFlyout (h : Prepared view s) : Prepared view s.withFlyout :=
  ⟨h.view, h.flyoutState, h.screens, h.settled, h.released, h.unserved, h.preloaded⟩

theorem Prepared.loaded (h : Prepared view s) (loads : Bool) : Prepared view (s.loaded loads) := by
  refine ⟨h.view, h.flyoutState, h.screens, h.settled, h.released, h.unserved, fun _ => ?_⟩
  have hview : (s.loaded loads).view = some view := h.view
  simp [hview]

/-- What `ShowDevicePicker` reports of a flyout that it creates. -/
theorem inv_present (h : Prepared view s) (hinactive : s.presentationActive = false)
    (hrunning : s.tearingDown = false) (showing : Showing) :
    Inv (present showing view s).2 ∧
      ((present showing view s).1 = true ↔ (present showing view s).2.flyoutState ≠ .closed) := by
  have hclosed : ∀ around t, (notShown around t).flyoutState = .closed :=
    fun around t => (framed_notify false around _).flyoutState
  unfold present
  split
  · have hinv := h.notShown showing.around'
    rw [notShown_inactive showing.around' hinactive] at hinv
    exact ⟨hinv, nofun, fun hshown => absurd (hclosed _ _) hshown⟩
  · split
    · have hfailed : Prepared view { s.withFlyout with presentationActive := false } :=
        ⟨h.view, h.flyoutState, h.screens, h.settled, h.released, h.unserved, h.preloaded⟩
      exact ⟨hfailed.unexpected rfl showing, nofun, fun hshown => absurd (hclosed _ _) hshown⟩
    next loads _ =>
      have hloaded := h.withFlyout.loaded loads
      have hnotified := hloaded.notify true showing.around
      have hframed := framed_notify true showing.around (s.withFlyout.loaded loads)
      obtain ⟨-, hactive, -⟩ := notify_visible true showing.around
        (by rw [hloaded.flyoutState]; nofun) (by rw [hloaded.view]; rfl)
      have hshown := hnotified.shown hframed.flyout hactive
      dsimp only
      split
      · exact ⟨hnotified.notShown showing.around', nofun, fun hshown =>
          absurd (hclosed _ _) hshown⟩
      · exact ⟨hshown.2, fun _ => hshown.1.flyoutState, fun _ => rfl⟩
      next renders _ =>
        have hrunning' := hframed.tearingDown.trans hrunning
        have hopened := presents_raiseOpened hshown.1 hrunning' rfl renders
        exact ⟨hshown.2.presents hopened.2 hopened.1, fun _ => hopened.1.flyoutState, fun _ => rfl⟩

theorem inv_suppress (h : Inv s) (hrests : Rests s) (toggleIfOpen : Bool) (tick : Nat) :
    Inv (suppress toggleIfOpen tick s).2 ∧ Rests (suppress toggleIfOpen tick s).2 ∧
      (suppress toggleIfOpen tick s).2.tearingDown = s.tearingDown := by
  unfold suppress
  split
  · have hrests' : Rests { s with suppressNextTraySelect := false } :=
      ⟨hrests.flyout, hrests.flyoutState, hrests.screens, hrests.inactive, hrests.settled,
        hrests.released, hrests.refreshed⟩
    exact ⟨⟨.inl hrests', h.settings, h.preloaded⟩, hrests', rfl⟩
  · exact ⟨h, hrests, rfl⟩

/-- A picker that rests and has a view can be shown. -/
theorem Rests.prepared (hrests : Rests s) (h : Inv s) (hview : s.view = some view) :
    Prepared view { s with refreshPending := false, flyoutState := .opening } := by
  refine ⟨hview, rfl, hrests.screens, hrests.settled, hrests.released, ?_, h.preloaded⟩
  have hsettings := h.settings
  rw [hrests.settled] at hsettings
  by_contra hne
  exact absurd (hsettings.2 (Nat.pos_of_ne_zero hne)) Bool.false_ne_true

theorem inv_notShown (h : Inv s) (hrests : Rests s) (around : Surroundings) :
    Inv (notShown around s) := by
  have hrests' : Rests { s with flyoutState := .closed, flyout := none, refreshPending := false } :=
    ⟨rfl, rfl, hrests.screens, hrests.inactive, hrests.settled, hrests.released, rfl⟩
  have hinv : Inv { s with flyoutState := .closed, flyout := none, refreshPending := false } :=
    ⟨.inl hrests', h.settings, h.preloaded⟩
  exact hinv.notify false around

/-- What `ShowDevicePicker` leaves and reports. -/
theorem inv_showDevicePicker (h : Inv s) (toggleIfOpen : Bool) (showing : Showing) :
    Inv (showDevicePicker toggleIfOpen showing s).2 ∧
      ((showDevicePicker toggleIfOpen showing s).1 = true →
        toggleIfOpen = false ∨ s.flyoutState = .closed →
        (showDevicePicker toggleIfOpen showing s).2.flyoutState ≠ .closed) ∧
      ((showDevicePicker toggleIfOpen showing s).1 = false →
        (showDevicePicker toggleIfOpen showing s).2.flyoutState = s.flyoutState) := by
  unfold showDevicePicker
  split
  · exact ⟨h, nofun, fun _ => rfl⟩
  next hrunning =>
    have hrunning' : s.tearingDown = false := Bool.eq_false_iff.2 hrunning
    split
    next hopen =>
      have hframed := framed_notify true showing.around s
      have hnotified := h.notify true showing.around
      have hshown : s.flyoutState ≠ .closed := by
        rw [hopen.1]
        nofun
      cases toggleIfOpen with
      | false =>
        refine ⟨hnotified, fun _ _ => ?_, nofun⟩
        exact hframed.flyoutState ▸ hshown
      | true =>
        refine ⟨(inv_tryHide hnotified (hframed.tearingDown.trans hrunning') _).1,
          fun _ hclosed => ?_, nofun⟩
        exact absurd (hclosed.resolve_left nofun) hshown
    · split
      · exact ⟨h, nofun, fun _ => rfl⟩
      next hclosed =>
        have hclosed' : s.flyoutState = .closed := not_not.1 hclosed
        have hrests : Rests s := by
          rcases h.shown with hrests | ⟨screen, hpresents⟩
          · exact hrests
          · exact absurd hclosed' hpresents.flyoutState
        obtain ⟨hinv, hrested, htearing⟩ := inv_suppress h hrests toggleIfOpen showing.tick
        rcases hsuppressed : suppress toggleIfOpen showing.tick s with ⟨suppressed, t⟩
        rw [hsuppressed] at hinv hrested htearing
        rw [hclosed']
        cases suppressed with
        | true => exact ⟨hinv, nofun, fun _ => hrested.flyoutState⟩
        | false =>
          dsimp only
          split
          · have hunexpected : unexpected showing t = notShown showing.around' t := by
              rw [unexpected, tryHide_none hrested.flyout]
            rw [hunexpected]
            exact ⟨inv_notShown hinv hrested _, nofun,
              fun _ => (framed_notify false _ _).flyoutState⟩
          · exact ⟨hinv, nofun, fun _ => hrested.flyoutState⟩
          · obtain ⟨hframed, hview⟩ := framed_ensureView showing.creates t
            rcases hensured : ensureView showing.creates t with ⟨created, u⟩
            rw [hensured] at hframed hview
            have hrests' := hrested.framed hframed
            have hinv' := hinv.framed hframed (.inl hrests')
            cases created with
            | false => exact ⟨hinv', nofun, fun _ => hrests'.flyoutState⟩
            | true =>
              dsimp only
              split
              · exact ⟨hinv', nofun, fun _ => hrests'.flyoutState⟩
              next view hsome =>
                have hpresent := inv_present (hrests'.prepared hinv' hsome) hrests'.inactive
                  ((hframed.tearingDown.trans htearing).trans hrunning') showing
                refine ⟨hpresent.1, fun hreported _ => hpresent.2.1 hreported, fun hreported => ?_⟩
                by_contra hshown
                exact absurd (hpresent.2.2 hshown) (by simp [hreported])

variable {e : Event}

/-- A flyout that is shown is the current one. -/
theorem Inv.presenting (h : Inv s) (hmem : screen ∈ s.screens) : Presents screen s := by
  rcases h.shown with hrests | ⟨other, hpresents⟩
  · rw [hrests.screens] at hmem
    cases hmem
  · rw [hpresents.screens, List.mem_singleton] at hmem
    exact hmem ▸ hpresents

/-! ## The teardown -/

/-- No handler does anything once the teardown has begun. -/
theorem torn_raiseClosing (h : s.tearingDown = true) (screen : Screen) :
    ∃ screens, raiseClosing screen s = { s with screens := screens } :=
  ⟨_, if_pos (.inl h)⟩

theorem torn_raiseClosed (h : s.tearingDown = true) (screen : Screen) (overTrayIcon : Bool)
    (tick : Nat) (around : Surroundings) :
    ∃ screens, raiseClosed screen overTrayIcon tick around s = { s with screens := screens } :=
  ⟨_, if_pos (.inl h)⟩

theorem torn_raise (h : s.tearingDown = true) (screen : Screen) (raised : Raised) :
    ∃ screens, raised.raise screen s = { s with screens := screens } := by
  have hclosing : ∃ screens, (if screen.closing then s else raiseClosing screen s) =
      { s with screens := screens } := by
    split
    · exact ⟨s.screens, rfl⟩
    · exact torn_raiseClosing h screen
  cases raised with
  | nothing => exact ⟨s.screens, rfl⟩
  | closing => exact hclosing
  | closed overTrayIcon tick around =>
    obtain ⟨screens, hraised⟩ := hclosing
    simp only [Raised.raise, hraised]
    exact ⟨_, if_pos (.inl h)⟩

/-- Neither the settings nor another flyout is shown. -/
structure Torn (s t : Picker) : Prop where
  tearingDown : t.tearingDown = true
  settingsShown : t.settingsShown = s.settingsShown
  flyoutsCreated : t.flyoutsCreated = s.flyoutsCreated

theorem torn_teardown (s : Picker) (raised : Raised) : Torn s (teardown raised s) := by
  unfold teardown
  dsimp only
  split
  · exact ⟨rfl, rfl, rfl⟩
  next screen _ =>
    obtain ⟨screens, hraised⟩ := torn_raise (s := { s with tearingDown := true }) rfl screen raised
    rw [hraised]
    exact ⟨rfl, rfl, rfl⟩

/-- Nothing is shown any more once the teardown has begun. -/
theorem torn_step (h : s.tearingDown = true) (e : Event) : Torn s (step s e) := by
  have hsame : ∀ {t : Picker}, t = s → Torn s t := by
    rintro t rfl
    exact ⟨h, rfl, rfl⟩
  have hscreens : ∀ {t : Picker}, (∃ screens, t = { s with screens := screens }) → Torn s t := by
    rintro t ⟨screens, rfl⟩
    exact ⟨h, rfl, rfl⟩
  cases e with
  | «show» toggleIfOpen showing =>
    have hrefused : showDevicePicker toggleIfOpen showing s = (false, s) := if_pos h
    exact hsame (congrArg Prod.snd hrefused)
  | hide outcome => exact hsame (if_pos h)
  | showSettings outcome => exact hsame (if_pos h)
  | evaluate around =>
    have hframed := framed_notify around.pressure.userInteraction around s
    exact ⟨hframed.tearingDown.trans h, hframed.settingsShown, hframed.flyoutsCreated⟩
  | release outcome => exact hsame (if_pos (.inl h))
  | refresh renders =>
    have hrefused : refresh renders s = (true, s) := if_pos (.inl h)
    exact hsame (congrArg Prod.snd hrefused)
  | opened screen renders => exact hscreens ⟨_, if_pos (.inl h)⟩
  | closing screen => exact hscreens (torn_raiseClosing h screen)
  | closed screen overTrayIcon tick around =>
    exact hscreens (torn_raiseClosed h screen overTrayIcon tick around)
  | requestTeardown => exact ⟨rfl, rfl, rfl⟩
  | teardown raised => exact torn_teardown s raised

/-- Nothing is shown any more after the teardown. -/
theorem torn_exec : ∀ (es : List Event) {s : Picker}, s.tearingDown = true →
    Torn s (pickerFlyout.exec s es)
  | [], _, h => ⟨h, rfl, rfl⟩
  | e :: es, _, h => by
    have hstep := torn_step h e
    have hrest := torn_exec es hstep.tearingDown
    exact ⟨hrest.tearingDown, hrest.settingsShown.trans hstep.settingsShown,
      hrest.flyoutsCreated.trans hstep.flyoutsCreated⟩

/-! ## Main result -/

/-- Until the teardown has begun. -/
theorem inv_step (hen : Enabled s e) (h : s.tearingDown = false → Inv s)
    (hafter : (step s e).tearingDown = false) : Inv (step s e) := by
  have hrunning : s.tearingDown = false := by
    rw [← Bool.not_eq_true]
    intro htorn
    exact absurd (hafter.symm.trans (torn_step htorn e).tearingDown) Bool.false_ne_true
  have hinv := h hrunning
  cases e with
  | «show» toggleIfOpen showing => exact (inv_showDevicePicker hinv toggleIfOpen showing).1
  | hide outcome =>
    simp only [step, hrunning, Bool.false_eq_true, if_false]
    exact (inv_tryHide hinv hrunning outcome).1
  | showSettings outcome => exact inv_showSettingsAfterPickerClosed hinv outcome
  | evaluate around => exact hinv.notify _ around
  | release outcome => exact inv_release hinv outcome
  | refresh renders => exact inv_refresh hinv renders
  | opened screen renders =>
    obtain ⟨hpresents, hkept⟩ :=
      presents_raiseOpened (hinv.presenting hen.1) hrunning hen.2.2 renders
    exact hinv.presents hkept hpresents
  | closing screen =>
    obtain ⟨hpresents, hkept⟩ := presents_raiseClosing (hinv.presenting hen.1) hrunning
    exact hinv.presents hkept hpresents
  | closed screen overTrayIcon tick around =>
    exact (settled_raiseClosed (hinv.presenting hen.1) hinv hrunning hen.2 overTrayIcon tick
      around).inv
  | requestTeardown => exact absurd hafter nofun
  | teardown raised =>
    exact absurd (hafter.symm.trans (torn_teardown s raised).tearingDown) Bool.false_ne_true

theorem inv_initial (policy : AdaptiveResourcePolicy) : Inv { policy := policy } where
  shown := .inl ⟨rfl, rfl, rfl, rfl, rfl, rfl, rfl⟩
  settings := ⟨nofun, nofun⟩
  preloaded := nofun

/-- The framework closes a flyout. -/
def closes (screen : Screen) (overTrayIcon : Bool) (tick : Nat) (around : Surroundings) :
    List Event :=
  (if screen.closing then [] else [.closing screen]) ++
    [.closed { screen with closing := true } overTrayIcon tick around]

theorem Inv.closes (h : Inv s) (hrunning : s.tearingDown = false) (hmem : screen ∈ s.screens)
    (overTrayIcon : Bool) (tick : Nat) (around : Surroundings) :
    pickerFlyout.Run s (closes screen overTrayIcon tick around) ∧
      Settled s (pickerFlyout.exec s (closes screen overTrayIcon tick around)) := by
  have hpresents := h.presenting hmem
  unfold PickerFlyout.closes
  split
  next hclosing =>
    have hsame : { screen with closing := true } = screen := by rw [← hclosing]
    rw [hsame]
    exact ⟨⟨⟨hmem, hclosing⟩, trivial⟩,
      settled_raiseClosed hpresents h hrunning hclosing overTrayIcon tick around⟩
  next hclosing =>
    obtain ⟨hraised, hkept⟩ := presents_raiseClosing hpresents hrunning
    have hsettled := settled_raiseClosed hraised (h.presents hkept hraised)
      (hkept.tearingDown.trans hrunning) rfl overTrayIcon tick around
    have hreleased := fun hpending => hsettled.released (hkept.releasePending.trans hpending)
    refine ⟨⟨⟨hmem, Bool.eq_false_iff.2 hclosing⟩, ⟨?_, rfl⟩, trivial⟩, hsettled.rests,
      hsettled.unserved, ?_, hreleased, hsettled.preloaded, hsettled.tearingDown⟩
    · change _ ∈ (raiseClosing screen s).screens
      rw [hraised.screens]
      exact .head _
    · have hshown := hsettled.settingsShown
      rw [hkept.settingsShown, hkept.openSettingsAfterClosed] at hshown
      exact hshown

/-- What holds of the picker between any two events, until the teardown has begun. -/
structure Sound (s : Picker) : Prop where
  /-- The state says whether a flyout is shown; no other one is shown than the current one, and it
  shows the current view, which is not released. -/
  shown : (s.flyoutState = .closed ∧ s.flyout = none ∧ s.screens = []) ∨
    ∃ screen, s.flyoutState ≠ .closed ∧ s.screens = [screen] ∧ s.flyout = some screen.flyout ∧
      s.view = some screen.view
  /-- The presentation is active while a flyout is shown that is not closing. -/
  active : s.presentationActive = true ↔ ∃ screen ∈ s.screens, screen.closing = false
  /-- A request for the settings that was not served is put off, and that only, like the release of
  the view, while a flyout is shown. -/
  deferred : (0 < s.unserved ↔ s.openSettingsAfterClosed = true) ∧
    (s.openSettingsAfterClosed = true ∨ s.releasePending = true → s.flyoutState ≠ .closed)
  /-- When the framework closes it, what was put off is done, and the settings are shown once. -/
  closed : ∀ screen ∈ s.screens, ∀ overTrayIcon tick around,
    pickerFlyout.Run s (closes screen overTrayIcon tick around) ∧
      Settled s (pickerFlyout.exec s (closes screen overTrayIcon tick around))
  /-- `ShowDevicePicker` reports whether the picker is shown, unless it is to hide it. -/
  reports : ∀ toggleIfOpen showing, toggleIfOpen = false ∨ s.flyoutState = .closed →
    ((showDevicePicker toggleIfOpen showing s).1 = true →
      (showDevicePicker toggleIfOpen showing s).2.flyoutState ≠ .closed) ∧
    ((showDevicePicker toggleIfOpen showing s).1 = false →
      (showDevicePicker toggleIfOpen showing s).2.flyoutState = s.flyoutState)

theorem Inv.sound (h : Inv s) (hrunning : s.tearingDown = false) : Sound s := by
  refine ⟨?_, ?_, ⟨h.settings.symm, ?_⟩, fun screen hmem => h.closes hrunning hmem,
    fun toggleIfOpen showing hopens => ?_⟩
  · exact h.shown.imp (fun hrests => ⟨hrests.flyoutState, hrests.flyout, hrests.screens⟩)
      fun ⟨screen, hpresents⟩ => ⟨screen, hpresents.flyoutState, hpresents.screens,
        hpresents.flyout, hpresents.view⟩
  · rcases h.shown with hrests | ⟨screen, hpresents⟩
    · simp [hrests.inactive, hrests.screens]
    · simp [hpresents.active, hpresents.screens]
  · rcases h.shown with hrests | ⟨screen, hpresents⟩
    · simp [hrests.settled, hrests.released]
    · exact fun _ => hpresents.flyoutState
  · obtain ⟨-, hshown, hfailed⟩ := inv_showDevicePicker h toggleIfOpen showing
    exact ⟨fun hreported => hshown hreported hopens, hfailed⟩

/-- A policy that keeps the view while the picker is used. -/
def coldPolicy : AdaptiveResourcePolicy := .create {} .cold

def calm : Surroundings where
  observed := true
  pressure := {
    memoryPressure := false
    preloadAllowed := false
    fullscreenOrPresentation := false
    energySaver := false
    uiVisible := false
    userInteraction := false
    uiResourcesLoaded := false
    uiResourcesInitialized := false }
  now := 0
  creates := true
  loads := true

/-- The picker is shown, and the settings are asked for while it is. -/
def settingsAsked : List Event :=
  [.show true ⟨some true, true, true, some true, .shows, .hides .nothing, 0, calm, calm⟩,
    .opened ⟨0, 0, false, false⟩ true, .showSettings (.hides .nothing),
    .closing ⟨0, 0, true, false⟩, .closed ⟨0, 0, true, true⟩ true 7 calm]

end PickerFlyout

end PlaybackConnector
