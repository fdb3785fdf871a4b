import RadarOverlay.Controller.Event

/-!
Settings restored from a store. Loading reads the store only, so what a loaded surface
takes over is a function of the store alone. Main statement: `run_contentLoaded` says
what is left when the content is loaded.
-/
namespace RadarOverlay

/-- The coordinate that is kept under a key, if there is one. -/
def SettingKey.coordinate? (setting : SettingKey) (kept : String → Option String) : Option Int32 :=
  (kept setting.key).bind readCoordinate

/-- The settings that a store describes. -/
def ScreenSettings.ofStore (kept : String → Option String) : ScreenSettings where
  aerodrome := (kept SettingKey.aerodrome.key).filter (· ≠ "")
  menuX := SettingKey.menuX.coordinate? kept
  menuY := SettingKey.menuY.coordinate? kept

/-- What is noted of a key: a value that is kept under it and denotes no coordinate. -/
def SettingKey.complaints (setting : SettingKey) (kept : String → Option String) : List Notice :=
  match kept setting.key with
  | none => []
  | some value =>
    if readCoordinate value = none then [.settingRejected (.invalidNumber setting.key value)]
    else []

section

open Program

variable {H C K : Type} [Host H] [LightingClient C] [Canvas K]

/-- Loading a coordinate only asks, and notes a value that denotes none. -/
theorem run_loadNumber (setting : SettingKey) (s : Situation H C K) : ∃ trace,
    effects trace = [] ∧ notices trace = setting.complaints (Host.loadSetting s.host) ∧
      run OverlayRequest.serve setting.loadNumber s =
        ⟨.ok (setting.coordinate? (Host.loadSetting s.host)), s, trace⟩ := by
  cases kept : Host.loadSetting s.host setting.key with
  | none =>
    refine ⟨[⟨.host (.loadSetting setting.key), none⟩], rfl,
      by rw [SettingKey.complaints, kept]; rfl, ?_⟩
    simp [SettingKey.loadNumber, SettingKey.coordinate?, run, OverlayRequest.serve,
      HostRequest.serve, kept]
  | some value =>
    cases read : readCoordinate value with
    | none =>
      refine ⟨[⟨.host (.loadSetting setting.key), some value⟩,
        ⟨.note (.settingRejected (.invalidNumber setting.key value)), ()⟩], rfl,
        by simp only [SettingKey.complaints, kept, read, if_true]; rfl, ?_⟩
      simp [SettingKey.loadNumber, SettingKey.coordinate?, SettingKey.parseNumber, run,
        OverlayRequest.serve, HostRequest.serve, kept, read]
    | some n =>
      refine ⟨[⟨.host (.loadSetting setting.key), some value⟩], rfl,
        by simp [SettingKey.complaints, kept, read, notices, Exchange.notice?], ?_⟩
      simp [SettingKey.loadNumber, SettingKey.coordinate?, SettingKey.parseNumber, run,
        OverlayRequest.serve, HostRequest.serve, kept, read]

/-- Loading only asks, and notes each coordinate that cannot be read. -/
theorem run_load (s : Situation H C K) : ∃ trace, effects trace = [] ∧
    notices trace = SettingKey.menuX.complaints (Host.loadSetting s.host) ++
      SettingKey.menuY.complaints (Host.loadSetting s.host) ∧
    run OverlayRequest.serve ScreenSettings.load s =
      ⟨.ok (.ofStore (Host.loadSetting s.host)), s, trace⟩ := by
  obtain ⟨first, quiet, notedX, loadedX⟩ := run_loadNumber .menuX s
  obtain ⟨second, silent, notedY, loadedY⟩ := run_loadNumber .menuY s
  let asked : Exchange Overlay := ⟨.host (.loadSetting SettingKey.aerodrome.key),
    Host.loadSetting s.host SettingKey.aerodrome.key⟩
  refine ⟨asked :: (first ++ second), ?_, ?_, ?_⟩
  · rw [effects, List.filterMap_cons_none rfl, ← effects, effects_append, quiet, silent,
      List.append_nil]
  · rw [notices, List.filterMap_cons_none rfl, ← notices, notices_append, notedX, notedY]
  · simp [ScreenSettings.load, run, run_bind, loadedX, loadedY, Outcome.andThen,
      OverlayRequest.serve, HostRequest.serve, ScreenSettings.ofStore, asked]

/-- The client after a restored target, if there is one, was set. -/
def ScreenSettings.retarget (settings : ScreenSettings) (client : C) : C :=
  match settings.aerodrome with
  | none => client
  | some icao => LightingClient.obey (.setAerodrome (some icao)) client

/-- Loaded content comes with the target and the coordinates of the store, as far as it has them,
and nothing is saved. -/
theorem run_contentLoaded (detailed : Bool) (s : Situation H C K) :
    let settings := ScreenSettings.ofStore (Host.loadSetting s.host)
    let ran := Overlay.run (Overlay.contentLoaded true detailed) s
    ran.result = .ok () ∧
    ran.state = { s with
      memory := { s.memory with anchor := settings.applyAnchor s.memory.anchor }
      client := settings.retarget s.client } ∧
    effects ran.trace =
      (settings.aerodrome.map fun icao => .client (.setAerodrome (some icao))).toList := by
  intro settings ran
  obtain ⟨trace, quiet, -, loaded⟩ := run_load s
  simp only [ran, settings, Overlay.contentLoaded, if_true, bind_eq, Overlay.run, run_bind, loaded,
    Outcome.andThen, effects_append, quiet, ScreenSettings.retarget]
  cases target : (ScreenSettings.ofStore (Host.loadSetting s.host)).aerodrome with
  | none => cases detailed <;> exact ⟨rfl, rfl, rfl⟩
  | some icao => cases detailed <;> exact ⟨rfl, rfl, rfl⟩

end

end RadarOverlay
