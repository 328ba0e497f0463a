import MacroStubs.Host.Logging
import MacroStubs.Proofs.Destination.Files
import Mathlib.Logic.Relation

/-! # Logs that are kept elsewhere

A host reports to its handlers, some of which write files. Where none of them writes to a place, reporting
leaves alone what lies there, and so does setting up the logging if its directory and its file are
elsewhere.
-/

namespace MacroStubs

/-- A place in a tree of files, as paths lead to it from a working directory. -/
structure Place where
  cwd : Path
  names : List String

/-- Whether a path leads to a place, if it leads anywhere. -/
def Place.IsOf (s : Place) (p : Path) : Prop := s.cwd.namesFrom p = s.names

instance (s : Place) (p : Path) : Decidable (s.IsOf p) :=
  inferInstanceAs (Decidable (s.cwd.namesFrom p = s.names))

namespace Host

variable {s : Place} {h h' h'' : Host} {r : Record}

/-- No handler writes to a place. -/
structure IsApart (s : Place) (h : Host) : Prop where
  cwd : h.files.cwd = s.cwd
  handlers : ∀ x ∈ h.handlers, ∀ p, x.sink = .file p → ¬ s.IsOf p

/-- One host has become another one with the same handlers and the same at a place. -/
structure Spares (s : Place) (h h' : Host) : Prop where
  files : Files.Spares s.names h.files h'.files
  handlers : h'.handlers = h.handlers
  environment : h'.environment = h.environment

namespace Spares

theorem refl (s : Place) (h : Host) : Spares s h h := ⟨.refl _ _, rfl, rfl⟩

theorem trans (hs : Spares s h h') (hs' : Spares s h' h'') : Spares s h h'' :=
  ⟨hs.files.trans hs'.files, hs'.handlers.trans hs.handlers, hs'.environment.trans hs.environment⟩

theorem isApart (hs : Spares s h h') (ha : h.IsApart s) : h'.IsApart s where
  cwd := hs.files.cwd.trans ha.cwd
  handlers := hs.handlers ▸ ha.handlers

end Spares

/-- A text is put behind the content of a handler's file. -/
def Appends (handlers : List Handler) (fs fs' : Files) : Prop :=
  ∃ x ∈ handlers, ∃ p text, x.sink = .file p ∧ fs.append p text = .ok fs'

/-- One host has become another one by handing records to its handlers. -/
structure Logged (h h' : Host) : Prop where
  files : Relation.ReflTransGen (Appends h.handlers) h.files h'.files
  rest : h' = { h with
    files := h'.files, journal := h'.journal, stdout := h'.stdout, stderr := h'.stderr }

namespace Logged

theorem refl (h : Host) : Logged h h := ⟨.refl, rfl⟩

theorem handlers (hl : h.Logged h') : h'.handlers = h.handlers := by rw [hl.rest]

theorem environment (hl : h.Logged h') : h'.environment = h.environment := by rw [hl.rest]

theorem trans (hl : h.Logged h') (hl' : h'.Logged h'') : h.Logged h'' where
  files := hl.files.trans (hl.handlers ▸ hl'.files)
  rest := by
    rw [hl'.rest, hl.rest]

/-- Records only add to files. -/
theorem grows (hl : h.Logged h') : h.files.Grows h'.files := by
  have happends := hl.files
  generalize h'.files = files at happends
  induction happends with
  | refl => exact .refl _
  | tail _ hlast ih =>
    obtain ⟨x, -, p, text, -, happend⟩ := hlast
    exact ih.trans (Files.grows_append happend)

/-- Records change nothing at a place that no handler writes to. -/
theorem spares (hl : h.Logged h') (ha : h.IsApart s) : h.Spares s h' := by
  have hfiles : Files.Spares s.names h.files h'.files := by
    have happends := hl.files
    generalize h'.files = files at happends
    induction happends with
    | refl => exact .refl _ _
    | tail _ hlast ih =>
      obtain ⟨x, hx, p, text, hp, happend⟩ := hlast
      refine ih.trans (Files.spares_append happend ?_)
      rw [ih.cwd, ha.cwd]
      exact ha.handlers x hx p hp
  exact ⟨hfiles, hl.handlers, hl.environment⟩

end Logged

theorem logged_deliverTo {x : Handler} (hx : x ∈ h.handlers) : h.Logged (h.deliverTo r x) := by
  rw [deliverTo]
  split
  · exact .refl h
  · split
    · exact ⟨.refl, rfl⟩
    · exact .refl h
  · rename_i path hp
    dsimp only
    split
    · rename_i files hfiles
      exact ⟨.single ⟨x, hx, path, _, hp, hfiles⟩, rfl⟩
    · exact .refl h

theorem logged_log (h : Host) (r : Record) : h.Logged (h.log r) := by
  have hall (xs : List Handler) (h' : Host) (hl : h.Logged h') (hx : ∀ x ∈ xs, x ∈ h.handlers) :
      h.Logged (xs.foldl (deliverTo r) h') := by
    induction xs generalizing h' with
    | nil => exact hl
    | cons x rest ih =>
      obtain ⟨hfirst, hrest⟩ := List.forall_mem_cons.mp hx
      exact ih _ (hl.trans (logged_deliverTo (hl.handlers ▸ hfirst))) hrest
  have hjournal : h.Logged { h with journal := h.journal ++ [r] } := ⟨.refl, rfl⟩
  rw [log, deliver]
  split
  · exact hjournal
  · split
    · split
      · exact ⟨.refl, rfl⟩
      · exact hjournal
    · exact hall _ _ hjournal fun _ hx => hx

theorem logged_logAll (h : Host) (rs : List Record) : h.Logged (h.logAll rs) := by
  induction rs generalizing h with
  | nil => exact .refl h
  | cons r rest ih => exact (logged_log h r).trans (ih _)

/-- The place that a path leads to. -/
def placeOf (h : Host) (p : Path) : Place := { cwd := h.files.cwd, names := h.files.cwd.namesFrom p }

/-- A file holds a text. Handlers that write to the same file may have put more behind it. -/
structure Holds (h : Host) (p : Path) (text : String) : Prop where
  begins : ∃ more, h.files.node? (h.placeOf p).names = some (.file (text ++ more))
  whole : h.IsApart (h.placeOf p) → h.files.node? (h.placeOf p).names = some (.file text)

/-- What is written is held. -/
theorem holds_write {p : Path} {text : String} {files : Files}
    (hw : h.files.write p text = .ok files) : ({ h with files } : Host).Holds p text := by
  have hcwd : files.cwd = h.files.cwd := by
    obtain ⟨-, names, -, -, rfl⟩ := Files.write_eq_ok hw
    rfl
  have hnode : files.node? (files.cwd.namesFrom p) = some (.file text) := by
    rw [hcwd, Files.node?_write hw]
  exact ⟨⟨"", by rw [String.append_empty]; exact hnode⟩, fun _ => hnode⟩

theorem Holds.logged {p : Path} {text : String} (hh : h.Holds p text) (hl : h.Logged h') :
    h'.Holds p text := by
  have hplace : h'.placeOf p = h.placeOf p := by
    rw [placeOf, placeOf, hl.grows.cwd]
  constructor
  · obtain ⟨more, hmore⟩ := hh.begins
    obtain ⟨last, hlast⟩ := hl.grows.files _ _ hmore
    exact ⟨more ++ last, by rw [hplace, hlast, String.append_assoc]⟩
  · intro ha
    rw [hplace] at ha ⊢
    have ha : h.IsApart (h.placeOf p) := ⟨rfl, hl.handlers ▸ ha.handlers⟩
    exact (hl.spares ha).files.node.trans (hh.whole ha)

/-- The file that a log in a directory is written to. -/
def logPath (directory : Path) (h : Host) : Path :=
  directory.join { parts := ["macro_stubgen_" ++ h.readings.stamp ++ ".log"] }

/-- A log in a directory is kept elsewhere than at a place: its file is, and where nothing lies at the
place yet, so are its directory and those above. -/
structure LogsApart (s : Place) (directory : Path) (h : Host) : Prop where
  file : ¬ s.IsOf (h.logPath directory)
  above : h.files.node? s.names = none →
    ∀ k, ¬ s.IsOf { directory with parts := directory.parts.take k }

/-- A host after its logging was set up, or could not be. -/
structure SetUp (s : Place) (h h' : Host) : Prop where
  files : Files.Spares s.names h.files h'.files
  environment : h'.environment = h.environment
  apart : h'.IsApart s

theorem SetUp.of_spares (ha : h.IsApart s) (hs : h.Spares s h') : h.SetUp s h' :=
  ⟨hs.files, hs.environment, hs.isApart ha⟩

theorem SetUp.trans (hs : h.SetUp s h') (hs' : h'.SetUp s h'') : h.SetUp s h'' :=
  ⟨hs.files.trans hs'.files, hs'.environment.trans hs.environment, hs'.apart⟩

theorem setUp_removeOwn (ha : h.IsApart s) : h.SetUp s h.removeOwn where
  files := .refl _ _
  environment := rfl
  apart := ⟨ha.cwd, fun x hx => ha.handlers x (List.mem_of_mem_filter hx)⟩

theorem setUp_addOwn (ha : h.IsApart s) {sink : Sink} (hsink : ∀ p, sink = .file p → ¬ s.IsOf p) :
    h.SetUp s (h.addOwn sink) where
  files := .refl _ _
  environment := rfl
  apart := by
    refine ⟨ha.cwd, fun x hx => ?_⟩
    rcases List.mem_append.mp hx with hx | hx
    · exact ha.handlers x hx
    · rw [List.mem_singleton.mp hx]
      exact hsink

theorem setUp_addLogFile (ha : h.IsApart s) {directory : Path} (hl : h.LogsApart s directory) :
    h.SetUp s (h.addLogFile directory).2 := by
  rw [addLogFile]
  split
  · exact .of_spares ha (.refl s h)
  · rename_i files hfiles
    have hmade : Files.Spares s.names h.files files := by
      refine Files.spares_makeAll hfiles fun hn k => ?_
      rw [ha.cwd]
      exact hl.above hn k
    have hdirectory : h.SetUp s { h with files, logFile := some (h.logPath directory) } :=
      .of_spares ha ⟨hmade, rfl, rfl⟩
    dsimp only
    split
    · exact hdirectory
    · rename_i opened hopened
      have hfile : h.SetUp s { h with files := opened, logFile := some (h.logPath directory) } := by
        refine .of_spares ha ⟨hmade.trans (Files.spares_append hopened ?_), rfl, rfl⟩
        rw [hdirectory.apart.cwd]
        exact hl.file
      refine hfile.trans (setUp_addOwn hfile.apart fun p hp => ?_)
      obtain rfl := Sink.file.inj hp
      exact hl.file

/-- Setting up a logging that is kept elsewhere changes nothing at a place, also if it fails. -/
theorem setUp_setUp (ha : h.IsApart s) {directory : Option Path}
    (hl : ∀ d, directory = some d → h.LogsApart s d) (verbose : Bool) :
    h.SetUp s (h.setUp directory verbose).2 := by
  rw [setUp]
  split
  · exact .of_spares ha (.refl s h)
  · have hlevel : h.SetUp s { h with threshold := .debug } := .of_spares ha ⟨.refl _ _, rfl, rfl⟩
    have hremoved := hlevel.trans (setUp_removeOwn hlevel.apart)
    have hconsole : h.SetUp s (({ h with threshold := .debug } : Host).removeOwn.addOwn
        (.console (if verbose then .debug else .info))) :=
      hremoved.trans (setUp_addOwn hremoved.apart nofun)
    have hfile : h.SetUp s (addLogFile? directory
        (({ h with threshold := .debug } : Host).removeOwn.addOwn
          (.console (if verbose then .debug else .info)))).2 := by
      cases directory with
      | none => exact hconsole
      | some d =>
        have hapart := hl d rfl
        exact hconsole.trans (setUp_addLogFile hconsole.apart ⟨hapart.file, hapart.above⟩)
    dsimp only
    split
    · rename_i failure opened hopened
      rw [hopened] at hfile
      exact hfile
    · rename_i opened hopened
      rw [hopened] at hfile
      have hdone : h.SetUp s { opened with initialized := true } :=
        ⟨hfile.files, hfile.environment, hfile.apart.cwd, hfile.apart.handlers⟩
      exact hdone.trans (.of_spares hdone.apart
        (((logged_log _ _).trans (logged_log _ _)).spares hdone.apart))

end Host
end MacroStubs
