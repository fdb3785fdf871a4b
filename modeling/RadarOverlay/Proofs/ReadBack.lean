import RadarOverlay.Proofs.WholeNumbers
import RadarOverlay.Proofs.WireImage
import RadarOverlay.Proofs.WrittenText

/-!
Calls as the other side reads them: texts up to their zero, functions and kinds from their numbers,
viewports from their flat form. Main statement: `reading_of_wireImage` says that what is read of a
call is the request that it was made for.
-/
namespace RadarOverlay.Native

open Text

/-- A text argument as it is read: the octets up to the zero that ends them. -/
def readText (t : Terminated) : String := readTerminated (octets t.text ++ [0])

theorem octets_bne_zero (t : Terminated) : ∀ octet ∈ octets t.text, (octet != 0) = true := by
  intro octet member
  obtain ⟨c, among, member⟩ := List.mem_flatMap.mp member
  have other : c ≠ '\x00' := fun zero => t.noZero (zero ▸ among)
  exact bne_iff_ne.mpr (ne_zero_of_mem_encodeChar other member)

theorem readText_eq (t : Terminated) : readText t = t.text := by
  rw [readText, readTerminated, List.takeWhile_append_of_pos (octets_bne_zero t)]
  simp [lossy_octets]

/-- A flat viewport as it is read: its kind decides which fields count, and its size is read as
words. -/
def RawViewport.reading (raw : RawViewport) : Option Viewport :=
  let size := (Binary.readWord raw.size.1, Binary.readWord raw.size.2)
  if raw.kind = 0 then some (.geo ⟨raw.origin, raw.scaling, raw.rotation, size⟩)
  else if raw.kind = 1 then some (.planar ⟨raw.origin, size⟩)
  else none

/-- A viewport is read back from its flat form. -/
@[simp] theorem reading_flatViewport (viewport : Viewport) :
    (flatViewport viewport).reading = some viewport := by
  cases viewport <;> simp [flatViewport, RawViewport.reading, Binary.readWord_ofInt]

/-- A call as the other side reads its arguments: the request that it was made for. -/
def NativeCall.reading : NativeCall → Option OverlayRequest
  | .radarArea => some (.host .radarArea)
  | .pixelToPosition point => some (.host (.pixelToPosition point))
  | .positionToPixel position => some (.host (.positionToPixel position))
  | .displayArea => some (.host .displayArea)
  | .isController => some (.host .isController)
  | .openPopupList area title columns =>
    some (.host (.command (.openPopupList area (readText title) columns)))
  | .addPopupListElement label function checkbox disabled => do
    let function ← (TagFunction.decode function).toOption
    let checkbox ← checkboxCodes.lookup checkbox
    some (.host (.command (.addPopupListElement ⟨readText label, function, checkbox, disabled⟩)))
  | .openPopupEdit area function initial => do
    let function ← (TagFunction.decode function).toOption
    some (.host (.command (.openPopupEdit area function (readText initial))))
  | .addScreenObject object area movable => do
    let object ← objectCodes.lookup object
    some (.host (.command (.addScreenObject object area movable)))
  | .refreshMapContent => some (.host (.command .refreshMapContent))
  | .loadSetting key => some (.host (.loadSetting (readText key)))
  | .saveSetting key description value => some (.host (.command
    (.saveSetting (readText key) (readText description) (readText value))))
  | .measureText _ text => some (.canvas (.measureText (readText text)))
  | .drawText _ text origin color =>
    some (.canvas (.command (.drawText (readText text) origin color)))
  | .fillRect _ area color => some (.canvas (.command (.fillRect area color)))
  | .drawLines _ points color => some (.canvas (.command (.drawLines points color)))
  | .save _ => some (.canvas .saveTransform)
  | .translate _ dx dy => some (.canvas (.command (.translate dx dy)))
  | .restore _ state => some (.canvas (.command (.restore ⟨state⟩)))
  | .connectionState => some (.client .connectionState)
  | .getAerodrome _ => some (.client .aerodrome)
  | .setAerodrome _ icao => some (.client (.command (.setAerodrome (icao.map readText))))
  | .getActivity _ => some (.client .activity)
  | .setActivity _ activity => do
    let activity ← activityCodes.lookup activity
    some (.client (.command (.setActivity activity)))
  | .getProfiles _ => some (.client .profiles)
  | .getProfile _ => some (.client .profile)
  | .setProfile _ index => some (.client (.command (.setProfile index)))
  | .getPresets _ => some (.client .presets)
  | .applyPreset _ index => some (.client (.command (.applyPreset index)))
  | .getViews _ => some (.client .views)
  | .getView _ => some (.client .view)
  | .setView _ index => some (.client (.command (.setView index)))
  | .drawBackground _ device viewport => do
    let viewport ← viewport.reading
    some (.client (.command (.drawBackground ⟨device⟩ viewport)))
  | .setViewport _ viewport => do
    let viewport ← viewport.reading
    some (.client (.command (.setViewport viewport)))
  | .drawForeground _ device => some (.client (.command (.drawForeground ⟨device⟩)))
  | .getClickRegions _ => some (.client .clickRegions)
  | .isBackgroundRefreshRequired _ => some (.client .takeRedraw)
  | .handleClick _ point click => do
    let click ← clickCodes.lookup click
    some (.client (.command (.handleClick point click)))
  | .createGraphics _ | .releaseGraphics _ | .createScreen _ | .destroyScreen _ => none

theorem readText_of_ofString? {text : String} {t : Terminated}
    (known : Terminated.ofString? text = some t) : readText t = text := by
  rw [readText_eq]
  unfold Terminated.ofString? at known
  split at known <;> cases known
  rfl

theorem decode_of_toOption {function : TagFunction} {id : Int32}
    (encoded : function.encode.toOption = some id) :
    (TagFunction.decode id).toOption = some function := by
  cases answered : function.encode with
  | error error => rw [answered] at encoded; cases encoded
  | ok id' =>
    rw [answered] at encoded
    cases encoded
    rw [TagFunction.decode_of_encode answered]
    rfl

theorem reading_hostCall? {command : HostCommand} {native : NativeCall}
    (image : hostCall? command = some native) :
    native.reading = some (.host (.command command)) := by
  cases command with
  | openPopupList area title columns =>
    obtain ⟨t, titled, rfl⟩ := Option.map_eq_some_iff.mp image
    simp only [NativeCall.reading, readText_of_ofString? titled]
  | addPopupListElement element =>
    obtain ⟨t, labelled, image⟩ := Option.bind_eq_some_iff.mp image
    obtain ⟨id, encoded, image⟩ := Option.bind_eq_some_iff.mp image
    obtain ⟨number, written, image⟩ := Option.bind_eq_some_iff.mp image
    cases image
    simp [NativeCall.reading, readText_of_ofString? labelled, decode_of_toOption encoded,
      lookup_of_number? (by decide) written]
  | openPopupEdit area submitted initial =>
    obtain ⟨t, known, image⟩ := Option.bind_eq_some_iff.mp image
    obtain ⟨id, encoded, image⟩ := Option.bind_eq_some_iff.mp image
    cases image
    simp [NativeCall.reading, readText_of_ofString? known, decode_of_toOption encoded]
  | addScreenObject object area movable =>
    obtain ⟨number, written, rfl⟩ := Option.map_eq_some_iff.mp image
    simp [NativeCall.reading, lookup_of_number? (by decide) written]
  | refreshMapContent =>
    cases image
    rfl
  | saveSetting key description value =>
    obtain ⟨t, keyed, image⟩ := Option.bind_eq_some_iff.mp image
    obtain ⟨u, described, image⟩ := Option.bind_eq_some_iff.mp image
    obtain ⟨v, valued, image⟩ := Option.bind_eq_some_iff.mp image
    cases image
    simp only [NativeCall.reading, readText_of_ofString? keyed, readText_of_ofString? described,
      readText_of_ofString? valued]

theorem reading_clientCall? {screen : Handle} {command : ClientCommand} {native : NativeCall}
    (image : clientCall? screen command = some native) :
    native.reading = some (.client (.command command)) := by
  cases command with
  | setAerodrome icao =>
    cases icao with
    | none =>
      cases image
      rfl
    | some icao =>
      obtain ⟨t, known, rfl⟩ := Option.map_eq_some_iff.mp image
      simp only [NativeCall.reading, Option.map_some, readText_of_ofString? known]
  | setActivity activity =>
    obtain ⟨number, written, rfl⟩ := Option.map_eq_some_iff.mp image
    simp [NativeCall.reading, lookup_of_number? (by decide) written]
  | handleClick point click =>
    obtain ⟨number, written, rfl⟩ := Option.map_eq_some_iff.mp image
    simp [NativeCall.reading, lookup_of_number? (by decide) written]
  | _ =>
    cases image
    simp [NativeCall.reading]

theorem reading_canvasCall? {graphics : Handle} {command : CanvasCommand} {native : NativeCall}
    (image : canvasCall? graphics command = some native) :
    native.reading = some (.canvas (.command command)) := by
  cases command with
  | drawText text origin color =>
    obtain ⟨t, known, rfl⟩ := Option.map_eq_some_iff.mp image
    simp only [NativeCall.reading, readText_of_ofString? known]
  | _ =>
    cases image
    rfl

/-- The request that a call was made for is read back from its arguments. -/
theorem reading_of_wireImage {screen : Handle} {context : Adapter.Context}
    {request : OverlayRequest} {native : NativeCall}
    (image : wireImage screen context request = some native) :
    native.reading = some request := by
  cases request with
  | host request =>
    cases request with
    | loadSetting key =>
      rw [wireImage, hostCrossing] at image
      split at image <;> cases image
      rename_i known
      simp only [NativeCall.reading, readText_of_ofString? known]
    | command command =>
      rw [wireImage, hostCrossing, Crossing.call?_ofCommand] at image
      exact reading_hostCall? image
    | _ => cases image; rfl
  | client request =>
    cases request with
    | command command =>
      rw [wireImage, clientCrossing, Crossing.call?_ofCommand] at image
      exact reading_clientCall? image
    | _ => cases image; rfl
  | canvas request =>
    cases request with
    | measureText text =>
      rw [wireImage, canvasCrossing] at image
      split at image <;> cases image
      rename_i known
      simp only [NativeCall.reading, readText_of_ofString? known]
    | command command =>
      rw [wireImage, canvasCrossing, Crossing.call?_ofCommand] at image
      exact reading_canvasCall? image
    | _ => cases image <;> rfl
  | _ => cases image

/-- The client's screen that a call names. -/
def NativeCall.screen? : NativeCall → Option Handle
  | .getAerodrome screen | .setAerodrome screen _ | .getActivity screen | .setActivity screen _
  | .getProfiles screen | .getProfile screen | .setProfile screen _ | .getPresets screen
  | .applyPreset screen _ | .getViews screen | .getView screen | .setView screen _
  | .drawBackground screen .. | .setViewport screen _ | .drawForeground screen _
  | .getClickRegions screen | .isBackgroundRefreshRequired screen | .handleClick screen ..
  | .destroyScreen screen => some screen
  | _ => none

theorem clientCall?_screen {screen handle : Handle} {command : ClientCommand} {native : NativeCall}
    (image : clientCall? screen command = some native) (named : native.screen? = some handle) :
    handle = screen := by
  cases command with
  | setAerodrome icao =>
    cases icao with
    | none =>
      cases image
      cases named
      rfl
    | some icao =>
      obtain ⟨t, -, rfl⟩ := Option.map_eq_some_iff.mp image
      cases named
      rfl
  | setActivity activity =>
    obtain ⟨number, -, rfl⟩ := Option.map_eq_some_iff.mp image
    cases named
    rfl
  | handleClick point click =>
    obtain ⟨number, -, rfl⟩ := Option.map_eq_some_iff.mp image
    cases named
    rfl
  | _ =>
    cases image
    cases named
    rfl

/-- A call that names a screen names the one of the adapter. -/
theorem wireImage_screen {screen handle : Handle} {context : Adapter.Context}
    {request : OverlayRequest} {native : NativeCall}
    (image : wireImage screen context request = some native)
    (named : native.screen? = some handle) : handle = screen := by
  have made := wireImage_party image
  have unnamed (other : native.party ≠ .client) (kept : native.party ≠ .lifecycle) : False := by
    cases native <;> first | exact other rfl | exact kept rfl | cases named
  cases request with
  | client request =>
    cases request with
    | command command =>
      rw [wireImage, clientCrossing, Crossing.call?_ofCommand] at image
      exact clientCall?_screen image named
    | connectionState =>
      cases image
      cases named
    | _ =>
      cases image
      cases named
      rfl
  | host request =>
    have party : native.party = .host := (Option.some.inj made).symm
    exact (unnamed (by simp [party]) (by simp [party])).elim
  | canvas request =>
    have party : native.party = .canvas context.graphics := (Option.some.inj made).symm
    exact (unnamed (by simp [party]) (by simp [party])).elim
  | _ => cases image

end RadarOverlay.Native
