import PlaybackConnector.Session.State
import Mathlib

/-!
# The icon in the notification area

`TrayIcon` (`TrayIcon.cpp:159`) keeps the data that it hands to the shell, and two flags that say
which of them the shell has yet to be told. The calls of the shell can be refused, and can time out
after they took effect. Whatever the shell answered, the icon that is handed to it is a live one of
the state that is shown, and a registered icon without a flag set is what the shell shows, unless
Explorer restarted since (`TrayIcon.Sound`).
-/

namespace PlaybackConnector

/-- Source: `TrayIconState` (`TrayIcon.hpp:20`). -/
inductive TrayIconState
  | idle | connecting | connected | error
deriving Repr, DecidableEq

/-- The handle of an icon. -/
abbrev IconHandle := Nat

/-- The icons of all states, by their size. Source: the icons of `TrayIcon` (`TrayIcon.hpp:80`). -/
structure TrayIcons where
  idle : Fin 4 → IconHandle
  connected : Fin 4 → IconHandle
  error : Fin 4 → IconHandle
  connecting : Fin 8 → Fin 4 → IconHandle

/-- The icon of a state. Source: `RefreshIcon` (`TrayIcon.cpp:363`). -/
def TrayIcons.handle (icons : TrayIcons) (state : TrayIconState) (frame : Fin 8) (size : Fin 4) :
    IconHandle :=
  match state with
  | .idle => icons.idle size
  | .connected => icons.connected size
  | .error => icons.error size
  | .connecting => icons.connecting frame size

/-- Source: `SIZES` (`TrayIcon.hpp:79`). -/
def iconSizes : Fin 4 → Nat := ![16, 20, 24, 32]

/-- The smallest size that is large enough. Source: `GetBestIconSizeIndex`
(`TrayIcon.cpp:340`). -/
def bestIconSizeIndex (smallIconWidth : Nat) : Fin 4 :=
  let targetSize := if smallIconWidth = 0 then 16 else smallIconWidth
  ((List.finRange 4).find? fun i => targetSize ≤ iconSizes i).getD 3

/-- The data that the shell is handed. Source: the fields of `NOTIFYICONDATAW` that `TrayIcon`
changes (`TrayIcon.hpp:66`). -/
structure NotifyIconData where
  hIcon : IconHandle
  szTip : WString
deriving Repr, DecidableEq

/-- How a call of `Shell_NotifyIconW` ends: a call that timed out has failed, but took effect. -/
inductive ShellCall
  | done | refused | timedOut
deriving Repr, DecidableEq

/-- Source: the members of `TrayIcon` (`TrayIcon.hpp:63`). -/
structure TrayIcon where
  icons : TrayIcons
  /-- `m_nid`. -/
  data : NotifyIconData := ⟨0, []⟩
  state : TrayIconState := .idle
  connectingFrame : Fin 8 := 0
  initialized : Bool := false
  registered : Bool := false
  iconDirty : Bool := true
  tooltipDirty : Bool := true
  /-- What the shell shows. No code reads it. -/
  shell : Option NotifyIconData := none

namespace TrayIcon

/-- A new icon has no handles yet. Source: the constructor (`TrayIcon.hpp:32`). -/
def uninitialized : TrayIcon where
  icons := ⟨fun _ => 0, fun _ => 0, fun _ => 0, fun _ _ => 0⟩

/-! ## Calls of the shell -/

/-- `NIM_ADD`, which fails if the shell has the icon. -/
def add (call : ShellCall) (icon : TrayIcon) : Bool × TrayIcon :=
  match icon.shell, call with
  | none, .done => (true, { icon with shell := some icon.data })
  | none, .timedOut => (false, { icon with shell := some icon.data })
  | _, _ => (false, icon)

/-- `NIM_MODIFY`, which fails if the shell does not have the icon. -/
def modify (call : ShellCall) (icon : TrayIcon) : Bool × TrayIcon :=
  match icon.shell, call with
  | some _, .done => (true, { icon with shell := some icon.data })
  | some _, .timedOut => (false, { icon with shell := some icon.data })
  | _, _ => (false, icon)

/-- `NIM_DELETE`. -/
def delete (call : ShellCall) (icon : TrayIcon) : TrayIcon :=
  match call with
  | .refused => icon
  | _ => { icon with shell := none }

/-- The shell was told everything. -/
def told (icon : TrayIcon) : TrayIcon :=
  { icon with registered := true, iconDirty := false, tooltipDirty := false }

/-- The shell has to be told everything. -/
def untold (icon : TrayIcon) : TrayIcon := { icon with iconDirty := true, tooltipDirty := true }

/-- `NIM_ADD`, and what is noted of it. Source: `Reregister` (`TrayIcon.cpp:255`). -/
def register (call : ShellCall) (icon : TrayIcon) : Bool × TrayIcon :=
  match icon.add call with
  | (false, icon) => (false, untold { icon with registered := false })
  | (true, icon) => (true, icon.told)

/-- `NIM_MODIFY`, and what is noted of it. Source: `ApplyPendingUpdates` (`TrayIcon.cpp:433`). -/
def update (call : ShellCall) (icon : TrayIcon) : Bool × TrayIcon :=
  match icon.modify call with
  | (false, icon) => (false, icon)
  | (true, icon) => (true, icon.told)

/-! ## Operations -/

variable (icon : TrayIcon)

/-- Source: `CreateAllIcons` (`TrayIcon.cpp:290`), which creates none without its image. -/
def createAllIcons (created : Option TrayIcons) : TrayIcon :=
  match created with
  | none => icon
  | some icons => { icon with icons := icons, iconDirty := true }

/-- Source: `Initialize` (`TrayIcon.cpp:159`). -/
def initializeIcon (created : Option TrayIcons) (size : Fin 4) (call : ShellCall) : TrayIcon :=
  let icon := icon.createAllIcons created
  let icon := { icon with
    data := { icon.data with hIcon := icon.icons.idle size }
    initialized := true }
  (icon.untold.register call).2

/-- The icon of the state is what the shell is handed next. Source: `RefreshIcon`
(`TrayIcon.cpp:360`). -/
def chooseIcon (size : Fin 4) : TrayIcon :=
  { icon with
    data := { icon.data with hIcon := icon.icons.handle icon.state icon.connectingFrame size }
    iconDirty := true }

/-- Source: `RefreshIcon` (`TrayIcon.cpp:352`). -/
def refreshIcon (applyShell : Bool) (size : Fin 4) (call : ShellCall) : Bool × TrayIcon :=
  if !icon.initialized then (false, icon)
  else if !applyShell then (true, icon.chooseIcon size)
  else if icon.registered then (icon.chooseIcon size).update call
  else (false, icon.chooseIcon size)

/-- Source: `SetState` (`TrayIcon.cpp:201`). -/
def setState (state : TrayIconState) (size : Fin 4) : TrayIcon :=
  if icon.state = state ∧ !icon.iconDirty then icon
  else
    let connectingFrame :=
      if icon.state ≠ state ∧ state = .connecting then 0 else icon.connectingFrame
    let icon := { icon with connectingFrame, state, iconDirty := true }
    (icon.refreshIcon false size .refused).2

/-- The text that fits the tooltip: it ends at its first NUL, and is cut at 127 units. Source:
`SetTooltip` (`TrayIcon.cpp:221`). -/
def tipText (text : WString) : WString := (text.takeWhile (· ≠ 0)).take 127

/-- Source: `SetTooltip` (`TrayIcon.cpp:217`). -/
def setTooltip (text : WString) : TrayIcon :=
  if !icon.initialized then icon
  else if tipText text = icon.data.szTip ∧ !icon.tooltipDirty then icon
  else { icon with data := { icon.data with szTip := tipText text }, tooltipDirty := true }

/-- Source: `UpdateTheme` (`TrayIcon.cpp:229`). -/
def updateTheme (created : Option TrayIcons) (size : Fin 4) (call : ShellCall) : Bool × TrayIcon :=
  (icon.createAllIcons created).refreshIcon true size call

/-- Source: `AdvanceConnectingFrame` (`TrayIcon.cpp:235`). -/
def advanceConnectingFrame (size : Fin 4) (call : ShellCall) : Bool × TrayIcon :=
  if icon.state ≠ .connecting then (true, icon)
  else
    let icon := { icon with connectingFrame := icon.connectingFrame + 1, iconDirty := true }
    icon.refreshIcon true size call

/-- Source: `Reregister` (`TrayIcon.cpp:253`). -/
def reregister (call : ShellCall) : TrayIcon :=
  if !icon.initialized then icon else (icon.register call).2

/-- Source: `ApplyPendingUpdates` (`TrayIcon.cpp:409`). -/
def applyPendingUpdates (call : ShellCall) : Bool × TrayIcon :=
  if !icon.initialized then (false, icon)
  else if !icon.registered then icon.register call
  else if !icon.iconDirty ∧ !icon.tooltipDirty then (true, icon)
  else icon.update call

/-- Source: `Remove` (`TrayIcon.cpp:273`). -/
def remove (call : ShellCall) : TrayIcon :=
  if !icon.initialized then icon
  else
    let icon := if icon.registered then icon.delete call else icon
    untold { icon with registered := false, initialized := false }

/-! ## What the operations keep -/

/-- The icon that is handed to the shell is one of the icons that exist. -/
def Live (icon : TrayIcon) : Prop := ∃ size,
  icon.data.hIcon = icon.icons.handle icon.state icon.connectingFrame size

/-- The icon that is handed to the shell is a live one of the state, and the shell shows what a
registered icon without a flag set holds, unless Explorer restarted since. -/
structure Sound (icon : TrayIcon) : Prop where
  live : icon.initialized = true → icon.Live
  shown : icon.registered = true → icon.iconDirty = false → icon.tooltipDirty = false →
    icon.shell = none ∨ icon.shell = some icon.data

/-- The shell was told everything that changed. -/
structure Told (icon : TrayIcon) : Prop where
  registered : icon.registered = true
  iconDirty : icon.iconDirty = false
  tooltipDirty : icon.tooltipDirty = false

/-- The operation changed neither the state nor the text. -/
structure Keeps (icon icon' : TrayIcon) : Prop where
  state : icon'.state = icon.state
  szTip : icon'.data.szTip = icon.data.szTip
  initialized : icon'.initialized = icon.initialized

variable {icon} {icon' icon'' : TrayIcon} {call : ShellCall} {size : Fin 4}
  {created : Option TrayIcons} {state : TrayIconState} {text : WString}

theorem Keeps.refl (icon : TrayIcon) : Keeps icon icon := ⟨rfl, rfl, rfl⟩

theorem Keeps.trans (h : Keeps icon icon') (h' : Keeps icon' icon'') : Keeps icon icon'' where
  state := h'.state.trans h.state
  szTip := h'.szTip.trans h.szTip
  initialized := h'.initialized.trans h.initialized

/-- After a call that succeeded the shell shows what it was handed, and no call changes anything
else. -/
theorem add_cases (call : ShellCall) (icon : TrayIcon) :
    ∃ shell, (icon.add call).2 = { icon with shell := shell } ∧
      ((icon.add call).1 = true → shell = some icon.data) := by
  obtain ⟨icons, data, state, frame, init, registered, iconDirty, tooltipDirty, shell⟩ := icon
  cases shell with
  | none =>
    cases call with
    | done | timedOut => exact ⟨some data, rfl, fun _ => rfl⟩
    | refused => exact ⟨none, rfl, nofun⟩
  | some shown => cases call <;> exact ⟨some shown, rfl, nofun⟩

theorem modify_cases (call : ShellCall) (icon : TrayIcon) :
    ∃ shell, (icon.modify call).2 = { icon with shell := shell } ∧
      ((icon.modify call).1 = true → shell = some icon.data) := by
  obtain ⟨icons, data, state, frame, init, registered, iconDirty, tooltipDirty, shell⟩ := icon
  cases shell with
  | none => cases call <;> exact ⟨none, rfl, nofun⟩
  | some shown =>
    cases call with
    | done | timedOut => exact ⟨some data, rfl, fun _ => rfl⟩
    | refused => exact ⟨some shown, rfl, nofun⟩

/-- An icon that the shell is yet to be handed. -/
theorem Sound.ofNotTold (hlive : icon.initialized = true → icon.Live) (h : ¬ icon.Told) :
    icon.Sound where
  live := hlive
  shown := fun hregistered hicon htooltip => absurd ⟨hregistered, hicon, htooltip⟩ h

theorem not_told_of_dirty (h : icon.iconDirty = true) : ¬ icon.Told := by
  intro htold
  rw [htold.iconDirty] at h
  cases h

/-- What holds of an operation that tries to tell the shell everything. -/
structure Tells (icon : TrayIcon) (result : Bool × TrayIcon) : Prop where
  sound : result.2.Sound
  keeps : Keeps icon result.2
  told : result.1 = true → result.2.Told

theorem told_spec (hlive : icon.initialized = true → icon.Live) :
    Tells icon (true, { icon with shell := some icon.data }.told) where
  sound := ⟨hlive, fun _ _ _ => .inr rfl⟩
  keeps := ⟨rfl, rfl, rfl⟩
  told := fun _ => ⟨rfl, rfl, rfl⟩

theorem register_spec (icon : TrayIcon) (call : ShellCall)
    (hlive : icon.initialized = true → icon.Live) :
    Tells icon (icon.register call) := by
  obtain ⟨shell, hshell, hshown⟩ := add_cases call icon
  unfold register
  rcases hadd : icon.add call with ⟨added, after⟩
  rw [hadd] at hshell hshown
  subst hshell
  cases added with
  | false => exact ⟨.ofNotTold hlive (not_told_of_dirty rfl), ⟨rfl, rfl, rfl⟩, nofun⟩
  | true =>
    cases hshown rfl
    exact told_spec hlive

/-- What the shell did not take is still marked. -/
theorem update_spec (icon : TrayIcon) (call : ShellCall)
    (hlive : icon.initialized = true → icon.Live) (hdirty : ¬ icon.Told) :
    Tells icon (icon.update call) := by
  obtain ⟨shell, hshell, hshown⟩ := modify_cases call icon
  unfold update
  rcases hmodify : icon.modify call with ⟨modified, after⟩
  rw [hmodify] at hshell hshown
  subst hshell
  cases modified with
  | false =>
    refine ⟨.ofNotTold hlive fun htold => hdirty ?_, ⟨rfl, rfl, rfl⟩, nofun⟩
    exact ⟨htold.registered, htold.iconDirty, htold.tooltipDirty⟩
  | true =>
    cases hshown rfl
    exact told_spec hlive

theorem chooseIcon_live (size : Fin 4) : (icon.chooseIcon size).Live := ⟨size, rfl⟩

/-- The icon that is refreshed is chosen anew, so it need not be live before. -/
theorem refreshIcon_sound (icon : TrayIcon) (applyShell : Bool) (size : Fin 4) (call : ShellCall)
    (h : icon.initialized = false → icon.Sound) :
    (icon.refreshIcon applyShell size call).2.Sound ∧
      Keeps icon (icon.refreshIcon applyShell size call).2 := by
  have hchosen : (icon.chooseIcon size).Sound :=
    .ofNotTold (fun _ => chooseIcon_live size) (not_told_of_dirty rfl)
  have hkeeps : Keeps icon (icon.chooseIcon size) := ⟨rfl, rfl, rfl⟩
  unfold refreshIcon
  split_ifs with hinit happly hregistered
  · exact ⟨h (by simpa using hinit), Keeps.refl icon⟩
  · exact ⟨hchosen, hkeeps⟩
  · have htells := update_spec (icon.chooseIcon size) call (fun _ => chooseIcon_live size)
      (not_told_of_dirty rfl)
    exact ⟨htells.sound, hkeeps.trans htells.keeps⟩
  · exact ⟨hchosen, hkeeps⟩

theorem refreshIcon_spec (icon : TrayIcon) (size : Fin 4) (call : ShellCall)
    (h : icon.initialized = false → icon.Sound) : Tells icon (icon.refreshIcon true size call) := by
  obtain ⟨hsound, hkeeps⟩ := refreshIcon_sound icon true size call h
  refine ⟨hsound, hkeeps, ?_⟩
  unfold refreshIcon
  split_ifs with hinit happly hregistered
  · exact nofun
  · exact absurd happly (by decide)
  · exact (update_spec _ call (fun _ => chooseIcon_live size) (not_told_of_dirty rfl)).told
  · exact nofun

/-- What holds of an uninitialised icon that is marked. -/
theorem sound_of_marked (hdirty : icon.iconDirty = true) :
    icon.initialized = false → icon.Sound := by
  intro hinit
  refine .ofNotTold (fun hinit' => ?_) (not_told_of_dirty hdirty)
  rw [hinit] at hinit'
  cases hinit'

theorem setState_spec (state : TrayIconState) (size : Fin 4) (h : icon.Sound) :
    (icon.setState state size).Sound ∧ (icon.setState state size).state = state ∧
      (icon.setState state size).data.szTip = icon.data.szTip ∧
      (icon.setState state size).initialized = icon.initialized := by
  unfold setState
  split_ifs with hsame
  · exact ⟨h, hsame.1, rfl, rfl⟩
  all_goals
    obtain ⟨hsound, hkeeps⟩ := refreshIcon_sound ({ icon with
      connectingFrame := _, state := state, iconDirty := true } : TrayIcon) false size .refused
      (sound_of_marked rfl)
    exact ⟨hsound, hkeeps.state, hkeeps.szTip, hkeeps.initialized⟩

theorem setTooltip_spec (text : WString) (h : icon.Sound) :
    (icon.setTooltip text).Sound ∧ (icon.setTooltip text).state = icon.state ∧
      (icon.initialized = true → (icon.setTooltip text).data.szTip = tipText text) ∧
      (icon.setTooltip text).initialized = icon.initialized := by
  unfold setTooltip
  split_ifs with hinit hsame
  · exact ⟨h, rfl, fun hinit' => absurd hinit' (by simpa using hinit), rfl⟩
  · exact ⟨h, rfl, fun _ => hsame.1.symm, rfl⟩
  · exact ⟨⟨h.live, fun _ _ => nofun⟩, rfl, fun _ => rfl, rfl⟩

theorem createAllIcons_keeps (created : Option TrayIcons) :
    Keeps icon (icon.createAllIcons created) := by
  cases created <;> exact ⟨rfl, rfl, rfl⟩

theorem updateTheme_spec (created : Option TrayIcons) (size : Fin 4) (call : ShellCall)
    (h : icon.Sound) : Tells icon (icon.updateTheme created size call) := by
  have htells := refreshIcon_spec (icon.createAllIcons created) size call <| by
    cases created with
    | none => exact fun _ => h
    | some icons => exact sound_of_marked rfl
  exact ⟨htells.sound, (createAllIcons_keeps created).trans htells.keeps, htells.told⟩

/-- A frame of an icon that is not animated changes nothing. -/
theorem advanceConnectingFrame_spec (size : Fin 4) (call : ShellCall) (h : icon.Sound) :
    (icon.advanceConnectingFrame size call).2.Sound ∧
      Keeps icon (icon.advanceConnectingFrame size call).2 ∧
      ((icon.advanceConnectingFrame size call).1 = true →
        (icon.advanceConnectingFrame size call).2 = icon ∨
          (icon.advanceConnectingFrame size call).2.Told) := by
  unfold advanceConnectingFrame
  split_ifs with hstate
  · exact ⟨h, Keeps.refl icon, fun _ => .inl rfl⟩
  · have htells := refreshIcon_spec ({ icon with
      connectingFrame := icon.connectingFrame + 1, iconDirty := true } : TrayIcon) size call
      (sound_of_marked rfl)
    have hkeeps := htells.keeps
    exact ⟨htells.sound, ⟨hkeeps.state, hkeeps.szTip, hkeeps.initialized⟩,
      fun hdone => .inr (htells.told hdone)⟩

theorem reregister_spec (call : ShellCall) (h : icon.Sound) :
    (icon.reregister call).Sound ∧ Keeps icon (icon.reregister call) := by
  unfold reregister
  split_ifs with hinit
  · exact ⟨h, Keeps.refl icon⟩
  · have htells := register_spec icon call h.live
    exact ⟨htells.sound, htells.keeps⟩

theorem applyPendingUpdates_spec (call : ShellCall) (h : icon.Sound) :
    Tells icon (icon.applyPendingUpdates call) := by
  unfold applyPendingUpdates
  split_ifs with hinit hregistered hclean
  · exact ⟨h, Keeps.refl icon, nofun⟩
  · exact register_spec icon call h.live
  · simp only [Bool.not_eq_true', Bool.not_eq_false] at hregistered hclean
    exact ⟨h, Keeps.refl icon, fun _ => ⟨hregistered, hclean.1, hclean.2⟩⟩
  · refine update_spec icon call h.live fun htold => hclean ?_
    rw [htold.iconDirty, htold.tooltipDirty]
    exact ⟨rfl, rfl⟩

/-- A new icon is the idle one. -/
theorem initializeIcon_spec (created : Option TrayIcons) (size : Fin 4) (call : ShellCall)
    (hidle : icon.state = .idle) : (icon.initializeIcon created size call).Sound ∧
      (icon.initializeIcon created size call).initialized = true := by
  have hcreated : (icon.createAllIcons created).state = .idle :=
    (createAllIcons_keeps created).state.trans hidle
  have htells := register_spec (untold { icon.createAllIcons created with
    data := { (icon.createAllIcons created).data with
      hIcon := (icon.createAllIcons created).icons.idle size }
    initialized := true }) call fun _ => ⟨size, by simp only [untold, hcreated]; rfl⟩
  exact ⟨htells.sound, htells.keeps.initialized⟩

/-- What a sound icon that was told everything shows. -/
theorem Sound.shows (h : icon.Sound) (htold : icon.Told) (hinit : icon.initialized = true) :
    icon.shell = none ∨ ∃ frame size,
      icon.shell = some ⟨icon.icons.handle icon.state frame size, icon.data.szTip⟩ := by
  obtain ⟨size, hsize⟩ := h.live hinit
  refine (h.shown htold.registered htold.iconDirty htold.tooltipDirty).imp id fun hshell => ?_
  exact ⟨icon.connectingFrame, size, by rw [hshell, ← hsize]⟩

end TrayIcon

end PlaybackConnector
