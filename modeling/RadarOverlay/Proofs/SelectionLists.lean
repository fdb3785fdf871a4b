import RadarOverlay.Proofs.Deferral
import RadarOverlay.Proofs.FunctionIds
import RadarOverlay.Proofs.Refinement

/-!
Selection lists on the wire. A list of the client goes out as the entries of a popup,
each with the id of a function that carries its position, and a position comes back as
such an id and is looked up in the list again. Main statement: `shown_is_selected` says
that no label is lost, moved or mistaken on the way, as far as ids reach.
-/
namespace RadarOverlay

/-- The list of the client that a submenu shows. -/
def Submenu.list : Submenu → SelectionList
  | .profiles => .profile
  | .presets => .preset
  | .views => .view

/-- The entry of a popup for a text and its position in a list. -/
def SelectionList.entry (list : SelectionList) (offered : Bool) (mark : Nat → PopupCheckbox)
    (x : String × Nat) : PopupElement :=
  ⟨x.1, if offered then list.submit x.2 else .none, mark x.2, !offered⟩

/-- If positions from `bound` on have no image, the images of a list with its positions are those
of its first elements, in order. -/
theorem images_of_zipIdx {α β : Type} (image : α × Nat → Option β) (xs : List α) (start bound : Nat)
    (below : ∀ x ∈ xs.zipIdx start, x.2 < bound → (image x).isSome)
    (above : ∀ x ∈ xs.zipIdx start, bound ≤ x.2 → image x = none) :
    ((xs.zipIdx start).filterMap image).length = min xs.length (bound - start) ∧
      ∀ i b, ((xs.zipIdx start).filterMap image)[i]? = some b →
        ∃ a, xs[i]? = some a ∧ image (a, start + i) = some b := by
  induction xs generalizing start with
  | nil => simp
  | cons a rest ih =>
    obtain ⟨length, images⟩ := ih (start + 1)
      (fun x member => below x (by simp [member])) fun x member => above x (by simp [member])
    rw [List.zipIdx_cons]
    by_cases inside : start < bound
    · obtain ⟨b, image_a⟩ := Option.isSome_iff_exists.mp (below (a, start) (by simp) inside)
      rw [List.filterMap_cons_some image_a]
      refine ⟨by simp only [List.length_cons, length]; omega, fun i c found => ?_⟩
      cases i with
      | zero =>
        cases found
        exact ⟨a, rfl, image_a⟩
      | succ i =>
        obtain ⟨a', there, image_a'⟩ := images i c found
        exact ⟨a', there, by rw [← image_a']; congr 2; omega⟩
    · have image_a := above (a, start) (by simp) (by omega)
      rw [List.filterMap_cons_none image_a]
      refine ⟨by simp only [List.length_cons, length]; omega, fun i c found => ?_⟩
      have inRange := (List.getElem?_eq_some_iff.mp found).1
      omega

namespace Native

open Program Text

section

variable {σ : Type}

/-! ## Calls that concern a list -/

/-- The other side after some calls, whatever they were answered. -/
def afterCalls (outside : Outside σ) (calls : List NativeCall) (o : σ) : σ :=
  calls.foldl (fun o call => (outside call o).2) o

def listCall (screen : Handle) : SelectionList → NativeCall
  | .profile => .getProfiles screen
  | .preset => .getPresets screen
  | .view => .getViews screen

def selectCall (screen : Handle) (index : Nat) : SelectionList → NativeCall
  | .profile => .setProfile screen index
  | .preset => .applyPreset screen index
  | .view => .setView screen index

/-- The list that the client gives when it is asked. -/
def givenList (outside : Outside σ) (screen : Handle) (o : σ) : SelectionList → List String
  | .profile => bufferTexts (outside (.getProfiles screen) o).1
  | .preset => bufferTexts (outside (.getPresets screen) o).1
  | .view => bufferTexts (outside (.getViews screen) o).1

/-- What the client is asked before the popup of a list is opened. -/
def askedBefore (screen : Handle) : SelectionList → List NativeCall
  | .profile => [.getActivity screen, .getProfile screen]
  | .preset => []
  | .view => [.getView screen]

/-- Whether the entries of a list can be activated: those of profiles only if the client tells that
it controls the lighting, which the number 2 stands for. -/
def offers (outside : Outside σ) (screen : Handle) (o : σ) : SelectionList → Bool
  | .profile => (outside (.getActivity screen) o).1 = 2
  | .preset | .view => true

/-- The position that the client tells to be selected. Presets have none. -/
def toldIndex? (outside : Outside σ) (screen : Handle) (o : σ) : SelectionList → Option Nat
  | .profile => some (outside (.getProfile screen) (outside (.getActivity screen) o).2).1
  | .preset => none
  | .view => some (outside (.getView screen) o).1

/-- The checkbox of a position next to the selected one, if there is one. -/
def checkboxAt (selected : Option Nat) (index : Nat) : PopupCheckbox :=
  match selected with
  | none => .noCheckbox
  | some current => .checkedIf (current == index)

/-- The number of a checkbox on the wire: 0 for none, in a list without a selected position, 2 for a
checked one, at the selected position, and 1 for an unchecked one. -/
def mark (selected : Option Nat) (index : Nat) : Int32 :=
  match selected with
  | none => 0
  | some current => if current = index then 2 else 1

theorem id_checkboxAt (selected : Option Nat) (index : Nat) :
    (checkboxAt selected index).id = mark selected index := by
  cases selected with
  | none => rfl
  | some current =>
    by_cases here : current = index <;>
      simp [checkboxAt, mark, PopupCheckbox.checkedIf, here, PopupCheckbox.id]

theorem controlling_iff {number : Int32} :
    (activityCodes.lookup number).getD .none = ActivityState.controlling ↔ number = 2 := by
  simp only [activityCodes, getD_lookup_code, List.lookup_nil, Option.getD_none]
  repeat' split
  all_goals simp_all

/-- Profiles are offered exactly while the overlay sees the client control the lighting. -/
theorem profileEntries_decoded (outside : Outside σ) (screen : Handle) (context : Adapter.Context)
    (s : ShellSituation σ) (current : Nat) (names : List String) :
    Menu.profileEntries ((decoded outside screen context (.client .activity) s).1 =
        ActivityState.controlling) current names =
      names.zipIdx.map (SelectionList.profile.entry (offers outside screen s.outside .profile)
        (checkboxAt (some current))) := by
  rw [show offers outside screen s.outside .profile = _ from
    (decide_eq_decide.mpr controlling_iff).symm]
  rfl

/-- The calls of a redraw check. -/
def redrawCalls (screen : Handle) (required : Bool) : List NativeCall :=
  .isBackgroundRefreshRequired screen :: if required then [.refreshMapContent] else []

def titled (submenu : Submenu) : Terminated :=
  ⟨submenu.title, by cases submenu <;> decide⟩

theorem hostCall?_openPopupList (submenu : Submenu) (area : Rect) :
    hostCall? (.openPopupList area submenu.title 1) =
      some (.openPopupList area (titled submenu) 1) := by
  have clean : Terminated.ofString? submenu.title = some (titled submenu) :=
    ofString?_of_noZero (titled submenu).noZero
  rw [hostCall?, clean, Option.map_some]

/-! ## Callbacks on the wire -/

variable {outside : Outside σ} {screen : Screen} {context : Adapter.Context}
  {s final : ShellSituation σ}

/-- A request is said as its wire image, and the callback goes on with the answer. -/
theorem ask_yields {request : OverlayRequest} {next : request.Answer → Callback Unit}
    {made later : List NativeCall}
    (others : Yields (Shell.run outside (screen.runCallback context
      (next (decoded outside screen.client context request s).1))
      (decoded outside screen.client context request s).2) () final later)
    (image : (wireImage screen.client context request).toList ++ later = made) :
    Yields (Shell.run outside (screen.runCallback context (.ask request next)) s) () final
      made := by
  obtain ⟨trace, calls, ran⟩ := @speak_faithful σ outside screen.client context request s
  have said : Yields (Shell.run outside (Adapter.speak screen.client context request) s)
      (decoded outside screen.client context request s).1
      (decoded outside screen.client context request s).2
      (wireImage screen.client context request).toList := by
    rw [Shell.run, ran]
    exact ⟨rfl, rfl, calls⟩
  exact image ▸ said.bind others

theorem then_yields {p q : Callback Unit} {next : ShellSituation σ} {made later : List NativeCall}
    (first : Yields (Shell.run outside (screen.runCallback context p) s) () next made)
    (others : Yields (Shell.run outside (screen.runCallback context q) next) () final later) :
    Yields (Shell.run outside (screen.runCallback context (p.bind fun _ => q)) s) () final
      (made ++ later) := by
  rw [Screen.runCallback, via_bind]
  exact first.bind others

theorem refreshIfRequired_yields (outside : Outside σ) (screen : Screen)
    (context : Adapter.Context) (s : ShellSituation σ) : ∃ required,
    Yields (Shell.run outside (screen.runCallback context Overlay.refreshIfRequired) s) ()
      { s with outside := afterCalls outside (redrawCalls screen.client required) s.outside }
      (redrawCalls screen.client required) := by
  refine ⟨(outside (.isBackgroundRefreshRequired screen.client) s.outside).1, ask_yields ?_ rfl⟩
  simp only [done_bind, decoded, clientCrossing, Crossing.answer]
  cases (outside (.isBackgroundRefreshRequired screen.client) s.outside).1 <;>
    exact ⟨rfl, rfl, rfl⟩

theorem addElements_yields (elements : List PopupElement) (s : ShellSituation σ) : ∃ left,
    Yields (Shell.run outside (screen.runCallback context (Overlay.addElements elements)) s) () left
      (elements.filterMap fun e => hostCall? (.addPopupListElement e)) := by
  induction elements generalizing s with
  | nil => exact ⟨s, rfl, rfl, rfl⟩
  | cons e rest ih =>
    obtain ⟨left, others⟩ :=
      ih (decoded outside screen.client context (.host (.command (.addPopupListElement e))) s).2
    refine ⟨left, ask_yields others ?_⟩
    have image : wireImage screen.client context (.host (.command (.addPopupListElement e))) =
        hostCall? (.addPopupListElement e) := Crossing.call?_ofCommand _
    rw [image, List.filterMap_cons]
    cases hostCall? (.addPopupListElement e) <;> rfl

/-- Opening a list asks for it once the popup stands, and adds an entry for each text. -/
theorem opening_yields (outside : Outside σ) (screen : Screen) (context : Adapter.Context)
    (submenu : Submenu) (text : String) (area : Rect) (s : ShellSituation σ) :
    let list := submenu.list
    let before := askedBefore screen.client list ++ [.openPopupList area (titled submenu) 1]
    let names := givenList outside screen.client (afterCalls outside before s.outside) list
    let entry := list.entry (offers outside screen.client s.outside list)
      (checkboxAt (toldIndex? outside screen.client s.outside list))
    ∃ left, Yields (Shell.run outside (screen.runCallback context
      (Overlay.perform screen.geo submenu.opening text area)) s) () left
      (before ++ listCall screen.client list ::
        names.zipIdx.filterMap fun x => hostCall? (.addPopupListElement (entry x))) := by
  intro list before names entry
  have opened (later : List NativeCall) : (wireImage screen.client context
      (.host (.command (.openPopupList area submenu.title 1)))).toList ++ later =
        .openPopupList area (titled submenu) 1 :: later := by
    rw [wireImage, hostCrossing, Crossing.call?_ofCommand, hostCall?_openPopupList]
    rfl
  obtain ⟨left, added⟩ := addElements_yields (names.zipIdx.map entry)
    { s with outside := afterCalls outside (before ++ [listCall screen.client list]) s.outside }
  rw [List.filterMap_map] at added
  refine ⟨left, ?_⟩
  cases submenu with
  | profiles =>
    have shown : _ = names.zipIdx.map entry :=
      profileEntries_decoded outside screen.client context s _ names
    rw [← shown] at added
    exact ask_yields (ask_yields (ask_yields (ask_yields added rfl) (opened _)) rfl) rfl
  | presets => exact ask_yields (ask_yields added rfl) (opened _)
  | views => exact ask_yields (ask_yields (ask_yields added rfl) (opened _)) rfl

theorem select_yields {list : SelectionList} {index : Nat}
    (listed : index < (givenList outside screen.client s.outside list).length) : ∃ left,
    Yields (Shell.run outside (screen.runCallback context (Overlay.select list index)) s) () left
      [listCall screen.client list, selectCall screen.client index list] := by
  have told (entries : List String) (inside : index < entries.length) (now : ShellSituation σ) :
      Yields (Shell.run outside (screen.runCallback context
        (if index < entries.length then Overlay.tellClient (list.select index)
          else Overlay.note (.indexRejected list index entries.length))) now) ()
        { now with outside := (outside (selectCall screen.client index list) now.outside).2 }
        [selectCall screen.client index list] := by
    rw [if_pos inside]
    cases list <;> exact ⟨rfl, rfl, rfl⟩
  cases list <;> exact ⟨_, ask_yields (told _ listed _) rfl⟩

/-! ## What the entries of a popup do -/

/-- Calling an id selects a position in a list, as long as the client gives the same list. -/
def Selects (outside : Outside σ) (screen : Screen) (list : SelectionList) (names : List String)
    (index : Nat) (id : Int32) : Prop :=
  ∀ (t : ShellSituation σ) (text : Buffer) (area : Rect),
    givenList outside screen.client t.outside list = names →
    let ran := Shell.run outside (screen.functionCall id text area) t
    ran.result = .ok () ∧ ∃ required, Shell.calls ran.trace =
      listCall screen.client list :: selectCall screen.client index list ::
        redrawCalls screen.client required

/-- Calling an id passes the redraw flag on and does nothing else. -/
def Inert (outside : Outside σ) (screen : Screen) (id : Int32) : Prop :=
  ∀ (t : ShellSituation σ) (text : Buffer) (area : Rect),
    let ran := Shell.run outside (screen.functionCall id text area) t
    ran.result = .ok () ∧ ran.state.memory = t.memory ∧
      ∃ required, Shell.calls ran.trace = redrawCalls screen.client required

/-- Calling the id of a function that is not parked carries the function out. -/
theorem functionCall_of_encode {f : TagFunction} {id : Int32} (encoded : f.encode = .ok id)
    (prompt : f.deferred = none) (text : Buffer) (area : Rect) :
    screen.functionCall id text area = screen.runCallback .null
      ((Overlay.perform screen.geo f ((text.map readTerminated).getD "") area).bind
        fun _ => Overlay.refreshIfRequired) := by
  simp only [Screen.functionCall, Overlay.callId, TagFunction.decode_of_encode encoded,
    Overlay.callFunction, prompt, bind_eq]

theorem selects_of_encode {list : SelectionList} {index : Nat} {id : Int32}
    (encoded : (list.submit index).encode = .ok id) {names : List String}
    (listed : index < names.length) : Selects outside screen list names index id := by
  intro t text area given ran
  have prompt : (list.submit index).deferred = none := by cases list <;> rfl
  have performed : Overlay.perform screen.geo (list.submit index)
      ((text.map readTerminated).getD "") area = Overlay.select list index := by
    cases list <;> rfl
  have now : index < (givenList outside screen.client t.outside list).length := given ▸ listed
  obtain ⟨left, selected⟩ := select_yields now
  obtain ⟨required, redrawn⟩ := refreshIfRequired_yields outside screen .null left
  obtain ⟨result, -, calls⟩ := then_yields selected redrawn
  simp only [ran, functionCall_of_encode encoded prompt, performed]
  exact ⟨result, required, calls⟩

theorem inert_of_encode {id : Int32} (encoded : TagFunction.encode .none = .ok id) :
    Inert outside screen id := by
  intro t text area ran
  obtain ⟨required, redrawn⟩ := refreshIfRequired_yields outside screen .null t
  simp only [ran, functionCall_of_encode encoded rfl, Overlay.perform, pure_eq, done_bind]
  exact ⟨redrawn.result, by rw [redrawn.state], required, redrawn.calls⟩

theorem entry_image (list : SelectionList) (offered : Bool) (marked : Nat → PopupCheckbox)
    {x : String × Nat} (clean : NoZero x.1) :
    hostCall? (.addPopupListElement (list.entry offered marked x)) =
      ((if offered then list.submit x.2 else .none).encode.toOption).map fun id =>
        .addPopupListElement ⟨x.1, clean⟩ id (marked x.2).id (!offered) := by
  simp only [hostCall?, SelectionList.entry, ofString?_of_noZero clean, number?_checkbox]
  cases (if offered then list.submit x.2 else .none).encode <;> rfl

/-- The texts of a list go out in order, each with the id of its position, until there are no more
ids. -/
theorem entries_of_names (list : SelectionList) (offered : Bool) (marked : Nat → PopupCheckbox)
    {names : List String} (clean : ∀ name ∈ names, NoZero name) :
    let entries := names.zipIdx.filterMap fun x =>
      hostCall? (.addPopupListElement (list.entry offered marked x))
    entries.length = (if offered then min names.length (2 ^ 20) else names.length) ∧
      ∀ index entry, entries[index]? = some entry → ∃ label id,
        entry = .addPopupListElement label id (marked index).id (!offered) ∧
        names[index]? = some label.text ∧
        (if offered then list.submit index else .none).encode = .ok id := by
  intro entries
  -- Entries that are not offered are inert and have an id at every position.
  let bound := if offered then 2 ^ 20 else names.length
  have labelled {x : String × Nat} (member : x ∈ names.zipIdx) : NoZero x.1 :=
    clean x.1 (List.fst_mem_of_mem_zipIdx member)
  have carried (index : Nat) : (list.submit index).payload = index := by cases list <;> rfl
  have below : ∀ x ∈ names.zipIdx, x.2 < bound →
      (hostCall? (.addPopupListElement (list.entry offered marked x))).isSome := by
    intro x member inside
    have fits : (if offered then list.submit x.2 else .none).payload ≤ payloadMax := by
      cases offered with
      | false => exact Nat.zero_le _
      | true => exact Nat.le_trans (Nat.le_of_eq (carried x.2)) (Nat.le_of_lt_succ inside)
    rw [entry_image list offered marked (labelled member), TagFunction.encode_of_fits fits]
    rfl
  have above : ∀ x ∈ names.zipIdx, bound ≤ x.2 →
      hostCall? (.addPopupListElement (list.entry offered marked x)) = none := by
    intro x member outOf
    rw [entry_image list offered marked (labelled member)]
    cases offered with
    | false => exact absurd (List.snd_lt_of_mem_zipIdx member) (Nat.not_lt.mpr outOf)
    | true =>
      have exceeds : payloadMax < (list.submit x.2).payload :=
        Nat.lt_of_lt_of_le outOf (Nat.le_of_eq (carried x.2).symm)
      simp only [if_true, TagFunction.encode_of_exceeds exceeds]
      rfl
  obtain ⟨length, images⟩ := images_of_zipIdx _ names 0 bound below above
  refine ⟨length.trans ?_, fun index entry found => ?_⟩
  · cases offered <;> simp [bound]
  · obtain ⟨name, there, image⟩ := images index entry found
    rw [Nat.zero_add] at image
    rw [entry_image list offered marked (clean name (List.mem_of_getElem? there))] at image
    obtain ⟨id, encoded, rfl⟩ := Option.map_eq_some_iff.mp image
    refine ⟨_, id, rfl, there, ?_⟩
    cases made : (if offered then list.submit index else .none).encode with
    | error cause =>
      rw [made] at encoded
      cases encoded
    | ok own =>
      rw [made] at encoded
      cases encoded
      rfl

theorem givenList_clean (outside : Outside σ) (screen : Handle) (o : σ) (list : SelectionList) :
    ∀ name ∈ givenList outside screen o list, NoZero name := by
  cases list <;> exact noZero_of_mem_bufferTexts

/-- A list is shown in one popup, which has an entry for each text that the client gives, in order;
only from 2^20 on there are none, since positions have no ids there. The entry of the selected
position is checked and no other, if the list has a selected position. Calling the id of an entry
selects its own position in the list that is shown, as long as the client gives the same list. While
the client does not control, all profiles are shown, disabled and inert. -/
theorem shown_is_selected (outside : Outside σ) (screen : Screen) (context : Adapter.Context)
    (submenu : Submenu) (text : String) (area : Rect) (s : ShellSituation σ) :
    let list := submenu.list
    let before := askedBefore screen.client list ++ [.openPopupList area (titled submenu) 1]
    let names := givenList outside screen.client (afterCalls outside before s.outside) list
    let offered := offers outside screen.client s.outside list
    let marked := mark (toldIndex? outside screen.client s.outside list)
    let ran := Shell.run outside (screen.runCallback context
      (Overlay.callFunction screen.geo submenu.opening text area)) s
    ran.result = .ok () ∧ ∃ entries required,
      Shell.calls ran.trace =
        before ++ listCall screen.client list :: entries ++ redrawCalls screen.client required ∧
      entries.length = (if offered then min names.length (2 ^ 20) else names.length) ∧
      ∀ index entry, entries[index]? = some entry → ∃ label id,
        entry = .addPopupListElement label id (marked index) (!offered) ∧
        names[index]? = some label.text ∧
        if offered then Selects outside screen list names index id
        else Inert outside screen id := by
  intro list before names offered marked ran
  obtain ⟨left, opened⟩ := opening_yields outside screen context submenu text area s
  obtain ⟨required, redrawn⟩ := refreshIfRequired_yields outside screen context left
  obtain ⟨result, -, calls⟩ := then_yields opened redrawn
  have called : Overlay.callFunction screen.geo submenu.opening text area =
      (Overlay.perform screen.geo submenu.opening text area).bind
        fun _ => Overlay.refreshIfRequired := by
    simp only [Overlay.callFunction, submenu.deferred_opening, bind_eq]
  rw [← called] at result calls
  obtain ⟨length, shown⟩ := entries_of_names list offered
    (checkboxAt (toldIndex? outside screen.client s.outside list))
    (givenList_clean outside screen.client (afterCalls outside before s.outside) list)
  refine ⟨result, _, required, calls, length, fun index entry found => ?_⟩
  obtain ⟨label, id, added, there, encoded⟩ := shown index entry found
  rw [id_checkboxAt] at added
  refine ⟨label, id, added, there, ?_⟩
  cases activates : offered with
  | true =>
    rw [activates] at encoded
    exact selects_of_encode encoded (List.getElem?_eq_some_iff.mp there).1
  | false =>
    rw [activates] at encoded
    exact inert_of_encode encoded

/-- The second of two profiles is checked, and calling its id selects it. -/
theorem shown_is_selected_night :
    let screen : Screen := ⟨false, ⟨1⟩⟩
    let scene : Simulation.NativeScene := { Simulation.NativeScene.initial with
      activity := 2
      profiles := some [[68, 97, 121], [78, 105, 103, 104, 116]]
      profile := 1 }
    let ran := Shell.run Simulation.NativeScene.serve (screen.runCallback .null
      (Overlay.callFunction false (.openSelectProfile .opening) "" ⟨0, 0, 60, 20⟩))
      ⟨.initial, scene⟩
    ∃ label id, .addPopupListElement label id 2 false ∈
        Shell.calls ran.trace ∧ label.text = "Night" ∧
      Selects Simulation.NativeScene.serve screen .profile ["Day", "Night"] 1 id := by
  intro screen scene ran
  obtain ⟨-, entries, required, calls, length, shown⟩ :=
    shown_is_selected Simulation.NativeScene.serve screen .null .profiles "" ⟨0, 0, 60, 20⟩
      ⟨.initial, scene⟩
  have names : bufferTexts scene.profiles = ["Day", "Night"] := by decide +kernel
  have two : entries.length = 2 := length.trans (congrArg (fun xs => min xs.length (2 ^ 20)) names)
  obtain ⟨entry, second⟩ : ∃ entry, entries[1]? = some entry :=
    ⟨_, List.getElem?_eq_getElem (by omega)⟩
  obtain ⟨label, id, rfl, there, selects⟩ := shown 1 _ second
  have made : .addPopupListElement label id 2 false ∈ entries :=
    List.mem_of_getElem? second
  refine ⟨label, id, ?_, ?_, names ▸ selects⟩
  · have heard : Shell.calls ran.trace = _ := calls
    rw [heard]
    simp [made]
  · exact (Option.some.inj ((congrArg (·[1]?) names).symm.trans there)).symm

end

end Native

end RadarOverlay
