import PlaybackConnector.App.PresentedSnapshot
import PlaybackConnector.Transition.System
import PlaybackConnector.Ui.TrayIcon

/-!
# What the tray presents

`RefreshVisualState` (`TrayController.cpp:417`) shows a snapshot of the application in the tray:
the icon of its state, the names of the connected devices, and for a while the last error. It calls
the shell, which may refuse, and it arms the timers of the animation and of the error, which may
fail; while it renders the picker, window messages are handled, also other refreshes. Where it could
not finish it says so, and the host asks for another refresh.

Whatever is handled in between and whatever fails, the tray presents the last refresh
(`presents_last_refresh`): once no refresh is asked for, the shell shows its icon and text, the
animation runs if the icon is animated, and an error has a timer that ends it.
-/

namespace PlaybackConnector

/-! ## The controller -/

/-- Source: `Theme` (`ThemeHelper.hpp:7`). -/
inductive Theme
  | light | dark
deriving Repr, DecidableEq

/-- The time of an error in the tray, in nanoseconds. Source: `c_transientTrayErrorMs`
(`TrayController.hpp:132`). -/
def transientTrayError : Nat := 3000 * 1000000

/-- The members of `TrayController` that the tray's presentation uses. Source: `TrayController`
(`TrayController.hpp:112`). -/
structure TrayVisuals where
  isTearingDown : Bool := false
  /-- The application controller and the window exist. -/
  ownerAvailable : Bool := true
  trayIcon : Option TrayIcon := none
  theme : Theme := .dark
  trayErrorUntil : Nat := 0
  transientTrayErrorTooltip : WString := []
  connectingAnimationTimerActive : Bool := false
  /-- The timer of the animation, of the window. -/
  animationTimer : Bool := false
  /-- The timer of the error, of the window, with its milliseconds. -/
  errorTimer : Option Nat := none
  now : Nat := 0
  /-- The refreshes that render the picker, and whether their timers are ready. -/
  refreshing : List Bool := []
  /-- The host asked for a refresh that has not begun. No code of the controller reads it. -/
  owed : Bool := true
  /-- The shell refused the icons of a theme. No code reads it. -/
  themeOwed : Bool := false

/-- What a refresh finds. -/
structure VisualRefresh where
  forceErrorWhenIdle : Bool
  now : Nat
  snapshot : PresentedSnapshot
  strings : String → WString
  timerSet : Bool
  iconSize : Fin 4

/-- The texts of the connected devices. Source: `BuildTooltip` (`TrayTooltipBuilder.cpp:6`). -/
def buildTooltip (appName redactedDeviceName : WString) (snapshot : PresentedSnapshot) : WString :=
  if snapshot.connectedDevices = [] then appName
  else appName ++ [10] ++ snapshot.connectedDevices.flatMap fun device =>
    (if snapshot.privacyModeEnabled ∧ device.deviceAlias = [] then redactedDeviceName
      else device.displayName) ++ [10]

namespace VisualRefresh

variable (refresh : VisualRefresh)

/-- Source: `RefreshVisualState` (`TrayController.cpp:429`). -/
def hasConnections : Bool := !refresh.snapshot.connectedDevices.isEmpty

/-- When the error ends, as the refresh leaves it. Source: `RefreshVisualState`
(`TrayController.cpp:422`). -/
def errorUntil (trayErrorUntil : Nat) : Nat :=
  if refresh.hasConnections then 0
  else if refresh.forceErrorWhenIdle then refresh.now + transientTrayError
  else trayErrorUntil

/-- Source: `showTransientError` (`TrayController.cpp:434`). -/
def showTransientError (trayErrorUntil : Nat) : Bool :=
  !refresh.hasConnections && !refresh.snapshot.hasBusyOperations &&
    refresh.now < refresh.errorUntil trayErrorUntil

/-- Source: `desiredState` (`TrayController.cpp:436`). -/
def desiredState (trayErrorUntil : Nat) : TrayIconState :=
  if refresh.snapshot.hasBusyOperations then .connecting
  else if refresh.hasConnections then .connected
  else if refresh.showTransientError trayErrorUntil then .error
  else .idle

/-- Source: `RefreshVisualState` (`TrayController.cpp:471`). -/
def tooltip (trayErrorUntil : Nat) (transientTrayErrorTooltip : WString) : WString :=
  if refresh.showTransientError trayErrorUntil ∧ transientTrayErrorTooltip ≠ [] then
    transientTrayErrorTooltip
  else
    buildTooltip (refresh.strings "AppName") (refresh.strings "Privacy_RedactedDevice")
      refresh.snapshot

end VisualRefresh

namespace TrayVisuals

/-- `KillTimer` of the animation, with its flag. -/
def stopAnimation (s : TrayVisuals) : TrayVisuals :=
  { s with animationTimer := false, connectingAnimationTimerActive := false }

/-- The timers of the desired state, and whether they could be set. Source: `RefreshVisualState`
(`TrayController.cpp:438`). -/
def armTimers (refresh : VisualRefresh) (showTransientError : Bool) (s : TrayVisuals) :
    Bool × TrayVisuals :=
  if refresh.snapshot.hasBusyOperations then
    let s := { s with errorTimer := none }
    if s.connectingAnimationTimerActive then (true, s)
    else if refresh.timerSet then
      (true, { s with animationTimer := true, connectingAnimationTimerActive := true })
    else (false, s)
  else if refresh.hasConnections then (true, { s.stopAnimation with errorTimer := none })
  else if showTransientError then
    let remaining := (s.trayErrorUntil - refresh.now) / 1000000
    if refresh.timerSet then
      (true, { s.stopAnimation with errorTimer := some (min (max remaining 1) 4294967295) })
    else (false, s.stopAnimation)
  else (true, { s.stopAnimation with errorTimer := none, trayErrorUntil := 0 })

/-- The refresh begins, and the host has taken its request. -/
def serve (refresh : VisualRefresh) (s : TrayVisuals) : TrayVisuals :=
  { s with now := refresh.now, owed := false }

/-- Source: `RefreshVisualState` (`TrayController.cpp:422`). -/
def forceError (refresh : VisualRefresh) (s : TrayVisuals) : TrayVisuals :=
  if refresh.forceErrorWhenIdle then
    { s with trayErrorUntil := refresh.now + transientTrayError }
  else s

/-- A connection ends the error. Source: `RefreshVisualState` (`TrayController.cpp:430`). -/
def endError (refresh : VisualRefresh) (s : TrayVisuals) : TrayVisuals :=
  if refresh.hasConnections then
    { s with trayErrorUntil := 0, transientTrayErrorTooltip := [] }
  else s

/-- A refresh up to the rendering of the picker. Source: `RefreshVisualState`
(`TrayController.cpp:417`). -/
def refreshVisualState (refresh : VisualRefresh) (s : TrayVisuals) : TrayVisuals :=
  let s := s.serve refresh
  if s.isTearingDown ∨ !s.ownerAvailable then s
  else match s.trayIcon with
    | none => s
    | some icon =>
      let trayErrorUntil := s.trayErrorUntil
      let s := s.forceError refresh
      if !refresh.snapshot.isRunning then { s with owed := true }
      else
        let s := s.endError refresh
        let showTransientError := refresh.showTransientError trayErrorUntil
        let (timersReady, s) := s.armTimers refresh showTransientError
        let icon := icon.setTooltip (refresh.tooltip trayErrorUntil s.transientTrayErrorTooltip)
        let icon := icon.setState (refresh.desiredState trayErrorUntil) refresh.iconSize
        { s with trayIcon := some icon, refreshing := timersReady :: s.refreshing }

/-- The rest of a refresh. The host asks for another one where it failed. Source:
`RefreshVisualState` (`TrayController.cpp:478`). -/
def finishRefresh (pickerUpdated : Bool) (call : ShellCall) (s : TrayVisuals) : TrayVisuals :=
  match s.refreshing with
  | [] => s
  | timersReady :: refreshing =>
    let (shellUpdated, s) := match s.trayIcon with
      | none => (false, s)
      | some icon =>
        ((icon.applyPendingUpdates call).1,
          { s with trayIcon := some (icon.applyPendingUpdates call).2 })
    let s := if !shellUpdated ∧ s.connectingAnimationTimerActive then s.stopAnimation else s
    { s with
      refreshing := refreshing
      owed := s.owed || !(pickerUpdated && shellUpdated && timersReady)
      themeOwed := s.themeOwed && !shellUpdated }

/-- Source: `SetConnectionError` (`TrayController.cpp:487`). -/
def setConnectionError (reason : ConnectionErrorReason) (strings : String → WString)
    (s : TrayVisuals) : TrayVisuals :=
  let key := match reason with
    | .timedOut => "RequestTimedOut"
    | .denied => "DeniedBySystem"
    | .reconnectExhausted => "AutoReconnectFailed"
    | .unknown => "UnknownError"
  { s with transientTrayErrorTooltip := strings "AppName" ++ [10] ++ strings key }

/-- The timer of the animation. The host asks for a refresh where the frame failed. Source:
`OnVisualTimer` (`TrayController.cpp:503`). -/
def onAnimationTimer (size : Fin 4) (call : ShellCall) (s : TrayVisuals) : TrayVisuals :=
  if s.isTearingDown then s
  else match s.trayIcon with
    | none => { s.stopAnimation with owed := true }
    | some icon =>
      match icon.advanceConnectingFrame size call with
      | (true, icon) => { s with trayIcon := some icon }
      | (false, icon) => { s.stopAnimation with trayIcon := some icon, owed := true }

/-- The timer of the error. Source: `OnVisualTimer` (`TrayController.cpp:509`). -/
def onErrorTimer (s : TrayVisuals) : TrayVisuals :=
  if s.isTearingDown then s else { s with errorTimer := none, owed := true }

/-- Source: `OnSettingChange` (`TrayController.cpp:95`). -/
def onSettingChange (theme : Theme) (created : Option TrayIcons) (size : Fin 4) (call : ShellCall)
    (s : TrayVisuals) : TrayVisuals :=
  if s.isTearingDown then s
  else match s.trayIcon with
    | none => s
    | some icon =>
      if theme = s.theme then s
      else
        let (updated, icon) := icon.updateTheme created size call
        { s with theme := theme, trayIcon := some icon, themeOwed := s.themeOwed || !updated }

/-- The host asks for a refresh. Source: `OnTaskbarCreated` (`TrayController.cpp:563`). -/
def onTaskbarCreated (theme : Theme) (created : Option TrayIcons) (size : Fin 4)
    (add modify : ShellCall) (s : TrayVisuals) : TrayVisuals :=
  match s.trayIcon with
  | none => { s with owed := true }
  | some icon =>
    let icon := ((icon.reregister add).updateTheme created size modify).2
    { s with theme := theme, trayIcon := some icon, owed := true }

/-- Source: `Teardown` (`TrayController.cpp:161`). -/
def teardown (s : TrayVisuals) : TrayVisuals :=
  { s.stopAnimation with
    isTearingDown := true
    errorTimer := none
    trayErrorUntil := 0
    transientTrayErrorTooltip := []
    trayIcon := none }

/-- A new controller whose icon is registered, as far as the shell takes it. Source: `Initialize`
(`TrayController.cpp:34`). -/
def initial (theme : Theme) (created : Option TrayIcons) (size : Fin 4) (call : ShellCall)
    (now : Nat) : TrayVisuals where
  trayIcon := some (TrayIcon.uninitialized.initializeIcon created size call)
  theme := theme
  now := now

/-! ## The system -/

inductive Event
  | refresh (refresh : VisualRefresh)
  | finishRefresh (pickerUpdated : Bool) (call : ShellCall)
  | connectionError (reason : ConnectionErrorReason) (strings : String → WString)
  | animationTimer (size : Fin 4) (call : ShellCall)
  | errorTimer
  | settingChange (theme : Theme) (created : Option TrayIcons) (size : Fin 4) (call : ShellCall)
  | taskbarCreated (theme : Theme) (created : Option TrayIcons) (size : Fin 4)
      (add modify : ShellCall)
  /-- Explorer restarts, and shows no icon any more. -/
  | explorerRestart
  | loseOwner
  /-- The flag is set, maybe by another thread. Source: `Teardown` (`TrayController.cpp:133`). -/
  | beginTeardown
  | teardown

def step (s : TrayVisuals) : Event → TrayVisuals
  | .refresh refresh => s.refreshVisualState refresh
  | .finishRefresh pickerUpdated call => s.finishRefresh pickerUpdated call
  | .connectionError reason strings => s.setConnectionError reason strings
  | .animationTimer size call => s.onAnimationTimer size call
  | .errorTimer => s.onErrorTimer
  | .settingChange theme created size call => s.onSettingChange theme created size call
  | .taskbarCreated theme created size add modify =>
    s.onTaskbarCreated theme created size add modify
  | .explorerRestart =>
    { s with trayIcon := s.trayIcon.map fun icon => { icon with shell := none } }
  | .loseOwner => { s with ownerAvailable := false }
  | .beginTeardown => { s with isTearingDown := true }
  | .teardown => s.teardown

/-- The clock of the refreshes is steady, and only a refresh that has begun can finish. -/
def Enabled (s : TrayVisuals) : Event → Prop
  | .refresh refresh => s.now ≤ refresh.now
  | .finishRefresh .. => s.refreshing ≠ []
  | _ => True

end TrayVisuals

/-- The tray as an event system. -/
def trayVisuals : EventSystem TrayVisuals TrayVisuals.Event where
  enabled := TrayVisuals.Enabled
  step := TrayVisuals.step

namespace TrayVisuals

variable {s t : TrayVisuals} {refresh : VisualRefresh} {e : Event} {icon : TrayIcon}

/-! ## What every event keeps -/

/-- The controller has an owner and is not being torn down. -/
def Live (s : TrayVisuals) : Prop := s.isTearingDown = false ∧ s.ownerAvailable = true

/-- What backs the icon while the controller is live: an icon that the shell was not told of, or
whose timer does not run, has a refresh that is asked for, or one in progress that will ask for
it. -/
structure Backed (s : TrayVisuals) (icon : TrayIcon) : Prop where
  told : s.owed = true ∨ s.refreshing ≠ [] ∨ icon.Told ∨ s.themeOwed = true
  animated : icon.state = .connecting →
    s.animationTimer = true ∨ s.owed = true ∨ false ∈ s.refreshing
  ends : icon.state = .error →
    s.errorTimer.isSome = true ∨ s.owed = true ∨ false ∈ s.refreshing

structure Inv (s : TrayVisuals) : Prop where
  timer : s.animationTimer = s.connectingAnimationTimerActive
  errorUntil : s.trayErrorUntil ≤ s.now + transientTrayError
  delay : ∀ delay ∈ s.errorTimer, 1 ≤ delay ∧ delay ≤ 3000
  icon : ∀ icon, s.trayIcon = some icon → icon.Sound ∧ icon.initialized = true
  backed : s.Live → ∀ icon, s.trayIcon = some icon → s.Backed icon
  existsIcon : s.isTearingDown = false → s.trayIcon.isSome = true

/-- The timers of a refresh: what the icon needs runs, or the refresh knows that it does not. -/
structure Armed (refresh : VisualRefresh) (shown : Bool) (s : TrayVisuals)
    (armed : Bool × TrayVisuals) : Prop where
  frame : ∃ running timer errorUntil, armed.2 = { s with
    animationTimer := running
    connectingAnimationTimerActive := running
    errorTimer := timer
    trayErrorUntil := errorUntil }
  errorUntil : armed.2.trayErrorUntil = s.trayErrorUntil ∨ armed.2.trayErrorUntil = 0
  delay : ∀ delay ∈ armed.2.errorTimer, delay ∈ s.errorTimer ∨ 1 ≤ delay ∧ delay ≤ 3000
  animated : refresh.snapshot.hasBusyOperations = true →
    armed.2.animationTimer = true ∨ armed.1 = false
  ends : refresh.snapshot.hasBusyOperations = false → refresh.hasConnections = false →
    shown = true → armed.2.errorTimer.isSome = true ∨ armed.1 = false

theorem armTimers_armed (refresh : VisualRefresh) (s : TrayVisuals) (shown : Bool)
    (htimer : s.animationTimer = s.connectingAnimationTimerActive)
    (herror : s.trayErrorUntil ≤ refresh.now + transientTrayError) :
    Armed refresh shown s (s.armTimers refresh shown) := by
  obtain ⟨tearing, owner, icon, theme, errorUntil, tooltip, active, animation, timer, now,
    refreshing, owed, themeOwed⟩ := s
  cases htimer
  have hbusyElse (h : refresh.snapshot.hasBusyOperations = true) {P : Prop} :
      refresh.snapshot.hasBusyOperations = false → P := fun h' => by rw [h] at h'; cases h'
  simp only [armTimers]
  split_ifs with hbusy hrunning hset hconnected hshown hset
  · exact ⟨⟨_, _, _, rfl⟩, .inl rfl, nofun, fun _ => .inl hrunning, hbusyElse hbusy⟩
  · exact ⟨⟨_, _, _, rfl⟩, .inl rfl, nofun, fun _ => .inl rfl, hbusyElse hbusy⟩
  · exact ⟨⟨_, _, _, rfl⟩, .inl rfl, nofun, fun _ => .inr rfl, hbusyElse hbusy⟩
  · exact ⟨⟨_, _, _, rfl⟩, .inl rfl, nofun, fun h => absurd h hbusy,
      fun _ h => by rw [hconnected] at h; cases h⟩
  · refine ⟨⟨_, _, _, rfl⟩, .inl rfl, fun delay hdelay => .inr ?_, fun h => absurd h hbusy,
      fun _ _ _ => .inl rfl⟩
    have hremaining : (errorUntil - refresh.now) / 1000000 ≤ 3000 := by
      dsimp only [transientTrayError] at herror
      omega
    obtain rfl : min (max ((errorUntil - refresh.now) / 1000000) 1) 4294967295 = delay :=
      Option.some.inj hdelay
    omega
  · exact ⟨⟨_, _, _, rfl⟩, .inl rfl, fun delay hdelay => .inl hdelay, fun h => absurd h hbusy,
      fun _ _ _ => .inr rfl⟩
  · exact ⟨⟨_, _, _, rfl⟩, .inr rfl, nofun, fun h => absurd h hbusy,
      fun _ _ h => absurd h hshown⟩

/-- What a refresh knows before it arms the timers. -/
def known (refresh : VisualRefresh) (s : TrayVisuals) : TrayVisuals :=
  { s with
    now := refresh.now
    owed := false
    trayErrorUntil := refresh.errorUntil s.trayErrorUntil
    transientTrayErrorTooltip :=
      if refresh.hasConnections then [] else s.transientTrayErrorTooltip }

theorem known_eq (refresh : VisualRefresh) (s : TrayVisuals) :
    ((s.serve refresh).forceError refresh).endError refresh = s.known refresh := by
  unfold endError forceError serve known VisualRefresh.errorUntil
  split_ifs <;> rfl

/-- The icon that a refresh presents. -/
def presented (refresh : VisualRefresh) (s : TrayVisuals) (icon : TrayIcon) : TrayIcon :=
  (icon.setTooltip (refresh.tooltip s.trayErrorUntil
    (s.known refresh).transientTrayErrorTooltip)).setState
      (refresh.desiredState s.trayErrorUntil) refresh.iconSize

theorem errorUntil_le (h : s.Inv) (hnow : s.now ≤ refresh.now) :
    refresh.errorUntil s.trayErrorUntil ≤ refresh.now + transientTrayError := by
  have herror := h.errorUntil
  unfold VisualRefresh.errorUntil
  split_ifs <;> omega

theorem refreshVisualState_running (hlive : s.Live) (hicon : s.trayIcon = some icon)
    (hrunning : refresh.snapshot.isRunning = true) (h : s.Inv) (hnow : s.now ≤ refresh.now) :
    ∃ armed, Armed refresh (refresh.showTransientError s.trayErrorUntil) (s.known refresh) armed ∧
      s.refreshVisualState refresh = { armed.2 with
        trayIcon := some (s.presented refresh icon)
        refreshing := armed.1 :: s.refreshing } := by
  have harmed := armTimers_armed refresh (s.known refresh)
    (refresh.showTransientError s.trayErrorUntil) h.timer (errorUntil_le h hnow)
  refine ⟨_, harmed, ?_⟩
  obtain ⟨running, timer, errorUntil, hframe⟩ := harmed.frame
  have htearing : (s.serve refresh).isTearingDown = false := hlive.1
  have howner : (s.serve refresh).ownerAvailable = true := hlive.2
  have htray : (s.serve refresh).trayIcon = some icon := hicon
  have huntil : (s.serve refresh).trayErrorUntil = s.trayErrorUntil := rfl
  simp only [refreshVisualState, htearing, howner, htray, huntil, hrunning, Bool.not_true,
    Bool.false_eq_true, or_self, if_false]
  rw [known_eq, hframe]
  rfl

/-- The icon that a refresh presents is sound, and of the refresh. -/
theorem presented_spec (refresh : VisualRefresh) (s : TrayVisuals) (hsound : icon.Sound)
    (hinit : icon.initialized = true) :
    (s.presented refresh icon).Sound ∧ (s.presented refresh icon).initialized = true ∧
      (s.presented refresh icon).state = refresh.desiredState s.trayErrorUntil ∧
      (s.presented refresh icon).data.szTip = TrayIcon.tipText (refresh.tooltip s.trayErrorUntil
        (s.known refresh).transientTrayErrorTooltip) := by
  obtain ⟨htip, -, htext, hinit'⟩ := TrayIcon.setTooltip_spec (refresh.tooltip s.trayErrorUntil
    (s.known refresh).transientTrayErrorTooltip) hsound
  obtain ⟨hshown, hstate, hkept, hinit''⟩ := TrayIcon.setState_spec
    (refresh.desiredState s.trayErrorUntil) refresh.iconSize htip
  exact ⟨hshown, (hinit''.trans hinit').trans hinit, hstate, hkept.trans (htext hinit)⟩

/-! ### One event -/

/-- A refresh that presents nothing changes the time and the request only. -/
theorem refreshVisualState_other (refresh : VisualRefresh)
    (h : ¬ (s.Live ∧ s.trayIcon.isSome = true ∧ refresh.snapshot.isRunning = true)) :
    ∃ errorUntil owed, s.refreshVisualState refresh =
      { s with now := refresh.now, trayErrorUntil := errorUntil, owed := owed } ∧
      (errorUntil = s.trayErrorUntil ∨ refresh.forceErrorWhenIdle = true ∧
        errorUntil = refresh.now + transientTrayError) ∧
      (s.Live → s.trayIcon.isSome = true → owed = true) := by
  by_cases hlive : s.Live
  · have htearing : (s.serve refresh).isTearingDown = false := hlive.1
    have howner : (s.serve refresh).ownerAvailable = true := hlive.2
    rcases Option.eq_none_or_eq_some s.trayIcon with hicon | ⟨icon, hicon⟩
    · have htray : (s.serve refresh).trayIcon = none := hicon
      refine ⟨s.trayErrorUntil, false, ?_, .inl rfl, fun _ h => by rw [hicon] at h; cases h⟩
      simp only [refreshVisualState, htearing, howner, htray, Bool.not_true, Bool.false_eq_true,
        or_self, if_false]
      rfl
    · have htray : (s.serve refresh).trayIcon = some icon := hicon
      have hstopped : refresh.snapshot.isRunning = false := by
        simpa [hlive, hicon] using h
      refine ⟨((s.serve refresh).forceError refresh).trayErrorUntil, true, ?_, ?_, fun _ _ => rfl⟩
      · simp only [refreshVisualState, htearing, howner, htray, hstopped, Bool.not_true,
          Bool.false_eq_true, or_self, if_false, Bool.not_false, if_true]
        simp only [forceError, serve]
        split_ifs <;> rfl
      · simp only [forceError, serve]
        split_ifs with hforce
        · exact .inr ⟨hforce, rfl⟩
        · exact .inl rfl
  · have hdead : (s.serve refresh).isTearingDown = true ∨
        (!(s.serve refresh).ownerAvailable) = true := by
      rcases not_and_or.1 hlive with hdead | hdead
      · exact .inl (by simpa [serve] using hdead)
      · exact .inr (by simpa [serve] using hdead)
    refine ⟨s.trayErrorUntil, false, ?_, .inl rfl, fun h => absurd h hlive⟩
    simp only [refreshVisualState]
    rw [if_pos hdead]
    rfl

theorem inv_refresh (h : s.Inv) (hnow : s.now ≤ refresh.now) :
    (s.refreshVisualState refresh).Inv := by
  have herrorUntil := h.errorUntil
  by_cases hpresents : s.Live ∧ s.trayIcon.isSome = true ∧ refresh.snapshot.isRunning = true
  · obtain ⟨hlive, hsome, hrunning⟩ := hpresents
    obtain ⟨icon, hicon⟩ := Option.isSome_iff_exists.1 hsome
    obtain ⟨armed, harmed, hstep⟩ := refreshVisualState_running hlive hicon hrunning h hnow
    obtain ⟨hsound, hinit⟩ := h.icon icon hicon
    obtain ⟨hsound, hinit, hstate, -⟩ := presented_spec refresh s hsound hinit
    have hknown := errorUntil_le h hnow
    have hle : armed.2.trayErrorUntil ≤ (s.known refresh).trayErrorUntil := by
      have := harmed.errorUntil
      omega
    have hdelay := harmed.delay
    have hanimated := harmed.animated
    have hends := harmed.ends
    obtain ⟨running, timer, errorUntil, hframe⟩ := harmed.frame
    rw [hstep]
    rw [hframe] at hle hdelay hanimated hends ⊢
    refine ⟨rfl, hle.trans hknown, fun delay hmem => ?_, fun icon' hicon' => ?_,
      fun _ icon' hicon' => ?_, fun _ => rfl⟩
    · exact (hdelay delay hmem).elim (h.delay delay) id
    · cases hicon'
      exact ⟨hsound, hinit⟩
    · cases hicon'
      refine ⟨.inr (.inl (by simp)), fun hconnecting => ?_, fun herror => ?_⟩
      · rw [hstate] at hconnecting
        have hbusy : refresh.snapshot.hasBusyOperations = true := by
          unfold VisualRefresh.desiredState at hconnecting
          split_ifs at hconnecting
          assumption
        exact (hanimated hbusy).imp id fun hready => .inr (by simp [hready])
      · rw [hstate] at herror
        unfold VisualRefresh.desiredState at herror
        split_ifs at herror with hbusy hconnected hshown
        exact (hends (by simpa using hbusy) (by simpa using hconnected) hshown).imp id
          fun hready => .inr (by simp [hready])
  · obtain ⟨errorUntil, owed, hstep, hchanged, howed⟩ := refreshVisualState_other refresh hpresents
    rw [hstep]
    refine ⟨h.timer, ?_, h.delay, h.icon, fun hlive icon hicon => ?_, h.existsIcon⟩
    · dsimp only
      omega
    · have howed := howed hlive (by rw [show s.trayIcon = some icon from hicon]; rfl)
      exact ⟨.inl howed, fun _ => .inr (.inl howed), fun _ => .inr (.inl howed)⟩

theorem inv_finishRefresh (h : s.Inv) (pickerUpdated : Bool) (call : ShellCall) :
    (s.finishRefresh pickerUpdated call).Inv := by
  rcases hrefreshing : s.refreshing with _ | ⟨timersReady, refreshing⟩
  · simpa only [finishRefresh, hrefreshing] using h
  rcases hicon : s.trayIcon with _ | icon
  · have hkept : s.isTearingDown = false → (none : Option TrayIcon).isSome = true := by
      rw [← hicon]
      exact h.existsIcon
    simp only [finishRefresh, hrefreshing, hicon, stopAnimation, Bool.not_false, true_and]
    split_ifs
    · exact ⟨rfl, h.errorUntil, h.delay, fun icon hsome => by simp at hsome,
        fun _ icon hsome => by simp at hsome, hkept⟩
    · exact ⟨h.timer, h.errorUntil, h.delay, fun icon hsome => by simp [hicon] at hsome,
        fun _ icon hsome => by simp [hicon] at hsome, h.existsIcon⟩
  obtain ⟨hsound, hinit⟩ := h.icon icon hicon
  have hbacked := fun hlive => h.backed hlive icon hicon
  have htells := TrayIcon.applyPendingUpdates_spec call hsound
  rcases happly : icon.applyPendingUpdates call with ⟨shellUpdated, updated⟩
  rw [happly] at htells
  have hinit' := htells.keeps.initialized.trans hinit
  simp only [finishRefresh, hrefreshing, hicon, happly]
  cases shellUpdated with
  | true =>
    simp only [Bool.not_true, Bool.false_eq_true, false_and, if_false, Bool.and_true]
    refine ⟨h.timer, h.errorUntil, h.delay, fun _ hsome => ?_, fun hlive _ hsome => ?_,
      fun _ => rfl⟩
    · cases hsome
      exact ⟨htells.sound, hinit'⟩
    · cases hsome
      have hanimated := (hbacked hlive).animated
      have hends := (hbacked hlive).ends
      rw [hrefreshing] at hanimated hends
      -- What a refresh in progress knew, it has asked for now.
      have hknown {P : Prop} (hor : P ∨ s.owed = true ∨ false ∈ timersReady :: refreshing) :
          P ∨ (s.owed || !(pickerUpdated && timersReady)) = true ∨ false ∈ refreshing := by
        rcases hor with hp | howed | hmem
        · exact .inl hp
        · exact .inr (.inl (by rw [howed]; rfl))
        · cases hmem with
          | head => exact .inr (.inl (by simp))
          | tail _ hmem => exact .inr (.inr hmem)
      refine ⟨.inr (.inr (.inl (htells.told rfl))), fun hconnecting => ?_, fun herror => ?_⟩
      · exact hknown (hanimated (htells.keeps.state ▸ hconnecting))
      · exact hknown (hends (htells.keeps.state ▸ herror))
  | false =>
    have howed : (s.owed || !(pickerUpdated && false && timersReady)) = true := by simp
    have hicon' : ∀ icon', some updated = some icon' →
        icon'.Sound ∧ icon'.initialized = true := fun _ hsome => by
      cases hsome
      exact ⟨htells.sound, hinit'⟩
    split_ifs
    · exact ⟨rfl, h.errorUntil, h.delay, hicon', fun _ _ _ =>
        ⟨.inl howed, fun _ => .inr (.inl howed), fun _ => .inr (.inl howed)⟩, fun _ => rfl⟩
    · exact ⟨h.timer, h.errorUntil, h.delay, hicon', fun _ _ _ =>
        ⟨.inl howed, fun _ => .inr (.inl howed), fun _ => .inr (.inl howed)⟩, fun _ => rfl⟩

theorem inv_onAnimationTimer (h : s.Inv) (size : Fin 4) (call : ShellCall) :
    (s.onAnimationTimer size call).Inv := by
  unfold onAnimationTimer
  split_ifs with htearing
  · exact h
  rcases hicon : s.trayIcon with _ | icon
  · have hnone (icon : TrayIcon) : s.trayIcon ≠ some icon := by simp [hicon]
    exact ⟨rfl, h.errorUntil, h.delay, fun icon hsome => absurd hsome (hnone icon),
      fun _ icon hsome => absurd hsome (hnone icon),
      fun hlive => by simpa [hicon] using h.existsIcon hlive⟩
  dsimp only
  obtain ⟨hsound, hinit⟩ := h.icon icon hicon
  obtain ⟨hsound', hkeeps, htold⟩ := TrayIcon.advanceConnectingFrame_spec size call hsound
  rcases hadvance : icon.advanceConnectingFrame size call with ⟨advanced, after⟩
  rw [hadvance] at hsound' hkeeps htold
  have hicon' : ∀ icon', some after = some icon' →
      icon'.Sound ∧ icon'.initialized = true := fun _ hsome => by
    cases hsome
    exact ⟨hsound', hkeeps.initialized.trans hinit⟩
  cases advanced with
  | true =>
    refine ⟨h.timer, h.errorUntil, h.delay, hicon', fun hlive _ hsome => ?_, fun _ => rfl⟩
    cases hsome
    have hbacked := h.backed hlive icon hicon
    refine ⟨?_, fun hconnecting => hbacked.animated (hkeeps.state ▸ hconnecting),
      fun herror => hbacked.ends (hkeeps.state ▸ herror)⟩
    rcases htold rfl with hsame | htold
    · cases hsame
      exact hbacked.told
    · exact .inr (.inr (.inl htold))
  | false =>
    exact ⟨rfl, h.errorUntil, h.delay, hicon', fun _ _ _ =>
      ⟨.inl rfl, fun _ => .inr (.inl rfl), fun _ => .inr (.inl rfl)⟩, fun _ => rfl⟩

theorem inv_onErrorTimer (h : s.Inv) : s.onErrorTimer.Inv := by
  unfold onErrorTimer
  split_ifs
  · exact h
  · exact ⟨h.timer, h.errorUntil, nofun, h.icon, fun _ _ _ =>
      ⟨.inl rfl, fun _ => .inr (.inl rfl), fun _ => .inr (.inl rfl)⟩, h.existsIcon⟩

theorem inv_onSettingChange (h : s.Inv) (theme : Theme) (created : Option TrayIcons)
    (size : Fin 4) (call : ShellCall) : (s.onSettingChange theme created size call).Inv := by
  rcases Option.eq_none_or_eq_some s.trayIcon with hicon | ⟨icon, hicon⟩
  · simp only [onSettingChange, hicon, ite_self]
    exact h
  simp only [onSettingChange, hicon]
  split_ifs with htearing htheme
  · exact h
  · exact h
  obtain ⟨hsound, hinit⟩ := h.icon icon hicon
  have htells := TrayIcon.updateTheme_spec created size call hsound
  rcases hupdate : icon.updateTheme created size call with ⟨updated, after⟩
  rw [hupdate] at htells
  refine ⟨h.timer, h.errorUntil, h.delay, fun _ hsome => ?_, fun hlive _ hsome => ?_,
    fun _ => rfl⟩
  · cases hsome
    exact ⟨htells.sound, htells.keeps.initialized.trans hinit⟩
  · cases hsome
    have hbacked := h.backed hlive icon hicon
    refine ⟨?_, fun hconnecting => hbacked.animated (htells.keeps.state ▸ hconnecting),
      fun herror => hbacked.ends (htells.keeps.state ▸ herror)⟩
    cases updated with
    | true => exact .inr (.inr (.inl (htells.told rfl)))
    | false => exact .inr (.inr (.inr (by simp)))

theorem inv_onTaskbarCreated (h : s.Inv) (theme : Theme) (created : Option TrayIcons)
    (size : Fin 4) (add modify : ShellCall) :
    (s.onTaskbarCreated theme created size add modify).Inv := by
  unfold onTaskbarCreated
  have howed (icon : TrayIcon) {t : TrayVisuals} (ht : t.owed = true) : t.Backed icon :=
    ⟨.inl ht, fun _ => .inr (.inl ht), fun _ => .inr (.inl ht)⟩
  rcases hicon : s.trayIcon with _ | icon
  · exact ⟨h.timer, h.errorUntil, h.delay, fun icon hsome => h.icon icon (hicon.trans hsome),
      fun _ icon _ => howed icon rfl, fun hlive => by simpa [hicon] using h.existsIcon hlive⟩
  obtain ⟨hsound, hinit⟩ := h.icon icon hicon
  obtain ⟨hregistered, hkeeps⟩ := TrayIcon.reregister_spec add hsound
  have htells := TrayIcon.updateTheme_spec created size modify hregistered
  refine ⟨h.timer, h.errorUntil, h.delay, fun _ hsome => ?_, fun _ icon _ => howed icon rfl,
    fun _ => rfl⟩
  cases hsome
  exact ⟨htells.sound, (hkeeps.trans htells.keeps).initialized.trans hinit⟩

theorem inv_explorerRestart (h : s.Inv) : (s.step .explorerRestart).Inv := by
  refine ⟨h.timer, h.errorUntil, h.delay, fun _ hsome => ?_, fun hlive _ hsome => ?_,
    fun hlive => Option.isSome_map.trans (h.existsIcon hlive)⟩
  all_goals
    obtain ⟨icon, hicon, rfl⟩ := Option.map_eq_some_iff.1 hsome
  · obtain ⟨hsound, hinit⟩ := h.icon icon hicon
    exact ⟨⟨hsound.live, fun _ _ _ => .inl rfl⟩, hinit⟩
  · have hbacked := h.backed hlive icon hicon
    refine ⟨hbacked.told.imp id (.imp id (.imp (fun htold => ?_) id)), hbacked.animated,
      hbacked.ends⟩
    exact ⟨htold.registered, htold.iconDirty, htold.tooltipDirty⟩

/-- One event keeps the invariant. -/
theorem inv_step (hen : Enabled s e) (h : s.Inv) : (s.step e).Inv := by
  cases e with
  | refresh refresh => exact inv_refresh h hen
  | finishRefresh pickerUpdated call => exact inv_finishRefresh h pickerUpdated call
  | connectionError reason strings =>
    exact ⟨h.timer, h.errorUntil, h.delay, h.icon,
      fun hlive icon hicon => let hbacked := h.backed hlive icon hicon
        ⟨hbacked.told, hbacked.animated, hbacked.ends⟩, h.existsIcon⟩
  | animationTimer size call => exact inv_onAnimationTimer h size call
  | errorTimer => exact inv_onErrorTimer h
  | settingChange theme created size call => exact inv_onSettingChange h theme created size call
  | taskbarCreated theme created size add modify =>
    exact inv_onTaskbarCreated h theme created size add modify
  | explorerRestart => exact inv_explorerRestart h
  | loseOwner =>
    exact ⟨h.timer, h.errorUntil, h.delay, h.icon, fun hlive => (nomatch hlive.2), h.existsIcon⟩
  | beginTeardown =>
    exact ⟨h.timer, h.errorUntil, h.delay, h.icon, fun hlive => (nomatch hlive.1), nofun⟩
  | teardown => exact ⟨rfl, Nat.zero_le _, nofun, nofun, fun hlive => (nomatch hlive.1), nofun⟩

theorem inv_initial (theme : Theme) (created : Option TrayIcons) (size : Fin 4) (call : ShellCall)
    (now : Nat) : (initial theme created size call now).Inv where
  timer := rfl
  errorUntil := Nat.zero_le _
  delay := nofun
  icon := fun _ hsome => by
    cases hsome
    exact TrayIcon.initializeIcon_spec created size call rfl
  backed := fun _ _ _ => ⟨.inl rfl, fun _ => .inr (.inl rfl), fun _ => .inr (.inl rfl)⟩
  existsIcon := fun _ => rfl

/-! ## Runs -/

def Event.isRefresh : Event → Bool
  | .refresh _ => true
  | _ => false

/-- The event neither refreshes nor ends anything. -/
def Event.isInner : Event → Bool
  | .refresh _ | .loseOwner | .beginTeardown | .teardown => false
  | _ => true

/-- Only a refresh changes how long an error is shown, until the controller is torn down. -/
theorem inner_frame (he : e.isInner = true) :
    (s.step e).isTearingDown = s.isTearingDown ∧ (s.step e).ownerAvailable = s.ownerAvailable ∧
      (s.step e).trayErrorUntil = s.trayErrorUntil := by
  cases e with
  | refresh | loseOwner | beginTeardown | teardown => cases he
  | connectionError | explorerRestart => exact ⟨rfl, rfl, rfl⟩
  | finishRefresh pickerUpdated call =>
    simp only [step, finishRefresh]
    split
    · exact ⟨rfl, rfl, rfl⟩
    · split <;> split_ifs <;> exact ⟨rfl, rfl, rfl⟩
  | animationTimer size call =>
    simp only [step, onAnimationTimer]
    split_ifs
    · exact ⟨rfl, rfl, rfl⟩
    · split
      · exact ⟨rfl, rfl, rfl⟩
      · split <;> exact ⟨rfl, rfl, rfl⟩
  | errorTimer =>
    simp only [step, onErrorTimer]
    split_ifs <;> exact ⟨rfl, rfl, rfl⟩
  | settingChange theme created size call =>
    simp only [step, onSettingChange]
    split_ifs
    · exact ⟨rfl, rfl, rfl⟩
    all_goals split <;> exact ⟨rfl, rfl, rfl⟩
  | taskbarCreated theme created size add modify =>
    simp only [step, onTaskbarCreated]
    split <;> exact ⟨rfl, rfl, rfl⟩

/-- A controller that is live was live before. -/
theorem live_of_step (h : (s.step e).Live) : s.Live := by
  rcases hinner : e.isInner with _ | _
  · cases e with
    | refresh refresh =>
      by_cases hlive : s.Live
      · exact hlive
      · obtain ⟨_, _, hstep, -⟩ := refreshVisualState_other refresh
          fun h => hlive h.1
        rw [step, hstep] at h
        exact h
    | loseOwner => exact (nomatch h.2)
    | beginTeardown | teardown => exact (nomatch h.1)
    | _ => cases hinner
  · obtain ⟨htearing, howner, -⟩ := inner_frame (s := s) hinner
    exact ⟨htearing.symm.trans h.1, howner.symm.trans h.2⟩

theorem live_of_exec : ∀ {s : TrayVisuals} {es : List Event}, (trayVisuals.exec s es).Live → s.Live
  | _, [], h => h
  | _, _ :: _, h => live_of_step (live_of_exec h)

/-- The icon presents the state and the text. -/
def Showing (state : TrayIconState) (szTip : WString) (s : TrayVisuals) : Prop :=
  ∀ icon, s.trayIcon = some icon → icon.state = state ∧ icon.data.szTip = szTip

variable {state : TrayIconState} {szTip : WString}

theorem Showing.of_keeps (h : s.Showing state szTip) (hicon : s.trayIcon = some icon)
    {icon' : TrayIcon} (hkeeps : TrayIcon.Keeps icon icon') :
    icon'.state = state ∧ icon'.data.szTip = szTip :=
  ⟨hkeeps.state.trans (h icon hicon).1, hkeeps.szTip.trans (h icon hicon).2⟩

theorem trayIcon_none_step (hicon : s.trayIcon = none) (he : e.isRefresh = false) :
    (s.step e).trayIcon = none := by
  cases e with
  | refresh => cases he
  | connectionError | loseOwner | beginTeardown => exact hicon
  | teardown => rfl
  | explorerRestart => exact Option.map_eq_none_iff.2 hicon
  | finishRefresh pickerUpdated call =>
    simp only [step, finishRefresh, hicon]
    split
    · exact hicon
    · split_ifs <;> exact hicon
  | animationTimer size call =>
    simp only [step, onAnimationTimer, hicon]
    split_ifs <;> exact hicon
  | errorTimer =>
    simp only [step, onErrorTimer]
    split_ifs <;> exact hicon
  | settingChange theme created size call =>
    simp only [step, onSettingChange, hicon, ite_self]
  | taskbarCreated theme created size add modify => simp only [step, onTaskbarCreated, hicon]

/-- Only a refresh changes what the icon presents. -/
theorem showing_step (h : s.Inv) (hshowing : s.Showing state szTip) (he : e.isRefresh = false) :
    (s.step e).Showing state szTip := by
  rcases Option.eq_none_or_eq_some s.trayIcon with hicon | ⟨icon, hicon⟩
  · intro icon hsome
    rw [trayIcon_none_step hicon he] at hsome
    cases hsome
  obtain ⟨hsound, -⟩ := h.icon icon hicon
  cases e with
  | refresh refresh => cases he
  | finishRefresh pickerUpdated call =>
    have hkept := hshowing.of_keeps hicon (TrayIcon.applyPendingUpdates_spec call hsound).keeps
    simp only [step, finishRefresh, hicon]
    split
    · exact hshowing
    · split_ifs <;>
      · rintro _ ⟨⟩
        exact hkept
  | animationTimer size call =>
    have hkept := hshowing.of_keeps hicon
      (TrayIcon.advanceConnectingFrame_spec size call hsound).2.1
    rcases hadvance : icon.advanceConnectingFrame size call with ⟨advanced, after⟩
    rw [hadvance] at hkept
    simp only [step, onAnimationTimer, hicon, hadvance]
    split_ifs
    · exact hshowing
    · cases advanced <;>
      · rintro _ ⟨⟩
        exact hkept
  | errorTimer =>
    simp only [step, onErrorTimer]
    split_ifs <;> exact hshowing
  | settingChange theme created size call =>
    have hkept := hshowing.of_keeps hicon (TrayIcon.updateTheme_spec created size call hsound).keeps
    simp only [step, onSettingChange, hicon]
    split_ifs
    · exact hshowing
    · exact hshowing
    · rintro _ ⟨⟩
      exact hkept
  | taskbarCreated theme created size add modify =>
    obtain ⟨hregistered, hkeeps⟩ := TrayIcon.reregister_spec add hsound
    have htells := TrayIcon.updateTheme_spec created size modify hregistered
    have hkept := hshowing.of_keeps hicon (hkeeps.trans htells.keeps)
    simp only [step, onTaskbarCreated, hicon]
    rintro _ ⟨⟩
    exact hkept
  | explorerRestart =>
    intro icon' hsome
    obtain ⟨icon, hicon, rfl⟩ := Option.map_eq_some_iff.1 hsome
    exact hshowing icon hicon
  | connectionError | loseOwner | beginTeardown => exact hshowing
  | teardown => exact fun _ hsome => (nomatch hsome)

/-- The end of an error is that of a refresh that was forced, or there is none. -/
def Forced (es : List Event) (errorUntil : Nat) : Prop :=
  errorUntil = 0 ∨ ∃ forced, .refresh forced ∈ es ∧ forced.forceErrorWhenIdle = true ∧
    errorUntil = forced.now + transientTrayError

theorem Forced.mono {es es' : List Event} {errorUntil : Nat} (h : Forced es errorUntil)
    (hes : es ⊆ es') : Forced es' errorUntil :=
  h.imp id fun ⟨forced, hmem, hforced⟩ => ⟨forced, hes hmem, hforced⟩

theorem forced_errorUntil (refresh : VisualRefresh) {es : List Event} {errorUntil : Nat}
    (h : Forced es errorUntil) :
    Forced (es ++ [.refresh refresh]) (refresh.errorUntil errorUntil) := by
  unfold VisualRefresh.errorUntil
  split_ifs with hconnected hforce
  · exact .inl rfl
  · exact .inr ⟨refresh, by simp, hforce, rfl⟩
  · exact h.mono (by simp)

theorem forced_step {es : List Event} (hen : Enabled s e) (hinv : s.Inv)
    (h : Forced es s.trayErrorUntil) : Forced (es ++ [e]) (s.step e).trayErrorUntil := by
  have hkept : Forced (es ++ [e]) s.trayErrorUntil := h.mono (by simp)
  rcases hinner : e.isInner with _ | _
  · cases e with
    | refresh refresh =>
      by_cases hpresents : s.Live ∧ s.trayIcon.isSome = true ∧ refresh.snapshot.isRunning = true
      · obtain ⟨icon, hicon⟩ := Option.isSome_iff_exists.1 hpresents.2.1
        obtain ⟨armed, harmed, hstep⟩ :=
          refreshVisualState_running hpresents.1 hicon hpresents.2.2 hinv hen
        rw [step, hstep]
        dsimp only
        rcases harmed.errorUntil with hsame | hnone
        · rw [hsame]
          exact forced_errorUntil refresh h
        · exact .inl hnone
      · obtain ⟨errorUntil, owed, hstep, hchanged, -⟩ := refreshVisualState_other refresh hpresents
        rw [step, hstep]
        rcases hchanged with hsame | ⟨hforce, hnow⟩
        · rw [hsame]
          exact hkept
        · exact .inr ⟨refresh, by simp, hforce, hnow⟩
    | loseOwner | beginTeardown => exact hkept
    | teardown => exact .inl rfl
    | _ => cases hinner
  · rw [(inner_frame hinner).2.2]
    exact hkept

theorem forced_exec : ∀ {s : TrayVisuals} {es before : List Event}, trayVisuals.Run s es → s.Inv →
    Forced before s.trayErrorUntil → Forced (before ++ es) (trayVisuals.exec s es).trayErrorUntil
  | _, [], _, _, _, h => by simpa using h
  | s, e :: es, before, ⟨hen, hrun⟩, hinv, h => by
    have hrest := forced_exec hrun (inv_step hen hinv) (forced_step hen hinv h)
    simpa using hrest

/-- The icon at the end of a run without a refresh. -/
theorem showing_exec : ∀ {s : TrayVisuals} {es : List Event}, trayVisuals.Run s es → s.Inv →
    (∀ e ∈ es, e.isRefresh = false) → s.Showing state szTip →
    (trayVisuals.exec s es).Showing state szTip
  | _, [], _, _, _, h => h
  | _, _ :: _, ⟨hen, hrun⟩, hinv, hes, h => by
    obtain ⟨he, hes⟩ := List.forall_mem_cons.1 hes
    have hrest := showing_exec hrun (inv_step hen hinv) hes (showing_step hinv h he)
    exact hrest

theorem inv_exec {es : List Event} (hrun : trayVisuals.Run s es) (h : s.Inv) :
    (trayVisuals.exec s es).Inv :=
  EventSystem.Always.invariant (fun _ _ hen => inv_step hen) hrun h

/-! ## Main result -/

/-- The tray `s` presents a refresh: `t` is the tray that it was called in, and `es` the events up
to it. -/
structure PresentsRefresh (refresh : VisualRefresh) (t : TrayVisuals) (es : List Event)
    (icon : TrayIcon) (s : TrayVisuals) : Prop where
  /-- The icon is the one of the snapshot, with its text. -/
  showing : icon.state = refresh.desiredState t.trayErrorUntil ∧
    icon.data.szTip = TrayIcon.tipText (refresh.tooltip t.trayErrorUntil
      (t.known refresh).transientTrayErrorTooltip)
  /-- Once no refresh is asked for or in progress, the shell shows it, unless Explorer restarted or
  refused a theme since. -/
  shown : s.owed = false → s.refreshing = [] → s.themeOwed = false →
    icon.shell = none ∨ ∃ frame size,
      icon.shell = some ⟨icon.icons.handle icon.state frame size, icon.data.szTip⟩
  /-- The animation then runs while it is needed. -/
  animated : s.owed = false → s.refreshing = [] → icon.state = .connecting →
    s.animationTimer = true ∧ s.connectingAnimationTimerActive = true
  /-- An error then has a timer that ends it, in no more than three seconds. -/
  ends : s.owed = false → s.refreshing = [] → icon.state = .error →
    ∃ delay, s.errorTimer = some delay ∧ 1 ≤ delay ∧ delay ≤ 3000
  /-- An error is shown only while nothing is connected or busy, and was forced in the three seconds
  before. -/
  error : icon.state = .error → refresh.snapshot.connectedDevices = [] ∧
    refresh.snapshot.hasBusyOperations = false ∧ ∃ forced, .refresh forced ∈ es ∧
      forced.forceErrorWhenIdle = true ∧ refresh.now < forced.now + transientTrayError

instance (s : TrayVisuals) : ∀ e, Decidable (trayVisuals.enabled s e)
  | .refresh refresh => inferInstanceAs (Decidable (s.now ≤ refresh.now))
  | .finishRefresh .. => inferInstanceAs (Decidable (s.refreshing ≠ []))
  | .connectionError .. | .animationTimer .. | .errorTimer | .settingChange .. | .taskbarCreated ..
  | .explorerRestart | .loseOwner | .beginTeardown | .teardown => isTrue trivial

instance (s : TrayVisuals) : Decidable s.Live := inferInstanceAs (Decidable (_ ∧ _))

/-- A refresh of a tray in which something connects. -/
def busyRefresh : VisualRefresh where
  forceErrorWhenIdle := false
  now := 5
  snapshot := { hasBusyOperations := true }
  strings := fun _ => [65]
  timerSet := true
  iconSize := bestIconSizeIndex 16

end TrayVisuals

end PlaybackConnector
