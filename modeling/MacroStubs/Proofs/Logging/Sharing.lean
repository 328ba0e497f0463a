import MacroStubs.Proofs.Destination.Logging
import Mathlib.Data.List.Nodup

/-! # Handlers of two owners

A host puts handlers of its own beside those of the program's logging setup, which can fail after it has
added some, and can be done anew after a reset. However these follow each other, the setup takes away
nothing but its own handlers, and what it leaves where it succeeds depends on that call alone.
-/

namespace MacroStubs

/-- Handlers with one more, unless it is among them. -/
def Handler.putIn (x : Handler) (xs : List Handler) : List Handler := if x ∈ xs then xs else xs ++ [x]

namespace Host

variable {h h' : Host} {made theirs : List Handler} {sinks : List Sink} {x : Handler}

/-- The handlers of a host are its own ones, in the order in which it has put them there, and those that
the setup remembers, each once. -/
structure IsShared (made theirs : List Handler) (h : Host) : Prop where
  nodup : h.handlers.Nodup
  others : h.handlers.filter (fun x => !h.own.contains x) = theirs
  remembered : h.handlers.filter (fun x => h.own.contains x) = h.own
  mem_made : ∀ x ∈ theirs, x ∈ made
  apart : ∀ x ∈ made, x ∉ h.own
  numbers : ∀ x ∈ made ++ h.own, x.number < h.nextHandler

/-- Where the setup has just put its handlers, they stand behind all others. -/
structure Installs (made theirs : List Handler) (sinks : List Sink) (h : Host) : Prop
    extends h.IsShared made theirs where
  behind : h.handlers = theirs ++ h.own
  to_sinks : h.own.map (·.sink) = sinks

namespace IsShared

theorem congr (hs : h.IsShared made theirs) (hh : h'.handlers = h.handlers) (ho : h'.own = h.own)
    (hn : h'.nextHandler = h.nextHandler) : h'.IsShared made theirs where
  nodup := hh ▸ hs.nodup
  others := by rw [hh, ho, hs.others]
  remembered := by rw [hh, ho, hs.remembered]
  mem_made := hs.mem_made
  apart := ho ▸ hs.apart
  numbers := by rw [ho, hn]; exact hs.numbers

theorem mem_theirs_iff (hs : h.IsShared made theirs) : x ∈ theirs ↔ x ∈ h.handlers ∧ x ∉ h.own := by
  simp [← hs.others]

theorem mem_handlers (hs : h.IsShared made theirs) (hx : x ∈ h.handlers) : x ∈ made ++ h.own := by
  by_cases ho : x ∈ h.own
  · exact List.mem_append_right _ ho
  · exact List.mem_append_left _ (hs.mem_made x (hs.mem_theirs_iff.mpr ⟨hx, ho⟩))

/-- A handler with the next number is new. -/
theorem not_mem_of_number (hs : h.IsShared made theirs) (hx : x.number = h.nextHandler) :
    x ∉ made ++ h.own := fun hm => absurd (hs.numbers x hm) (by omega)

theorem removeOwn (hs : h.IsShared made theirs) : h.removeOwn.Installs made theirs [] where
  nodup := hs.nodup.filter _
  others := by
    rw [Host.removeOwn]
    simpa using hs.others
  remembered := by simp [Host.removeOwn]
  mem_made := hs.mem_made
  apart := by simp [Host.removeOwn]
  numbers := fun x hx => hs.numbers x (List.mem_append_left _ (by simpa [Host.removeOwn] using hx))
  behind := by
    rw [Host.removeOwn]
    simpa using hs.others
  to_sinks := rfl

/-- A new handler that the setup remembers. -/
theorem install (hs : h.IsShared made theirs) (hx : x.number = h.nextHandler) :
    ({ h with
      handlers := h.handlers ++ [x]
      nextHandler := h.nextHandler + 1
      own := h.own ++ [x] } : Host).IsShared made theirs := by
  have hfresh : x ∉ made ++ h.own := hs.not_mem_of_number hx
  have hmem : x ∉ h.handlers := fun hm => hfresh (hs.mem_handlers hm)
  have hcontains : ∀ y ∈ h.handlers, (h.own ++ [x]).contains y = h.own.contains y := by
    intro y hy
    have hne : y ≠ x := fun he => hmem (he ▸ hy)
    simp [hne]
  constructor
  · exact List.nodup_append.mpr ⟨hs.nodup, List.nodup_singleton x, fun y hy z hz he =>
      hmem (List.mem_singleton.mp hz ▸ he ▸ hy)⟩
  · rw [List.filter_append, List.filter_congr fun y hy => by rw [hcontains y hy], hs.others]
    simp
  · rw [List.filter_append, List.filter_congr fun y hy => hcontains y hy, hs.remembered]
    simp
  · exact hs.mem_made
  · intro y hy hm
    rcases List.mem_append.mp hm with ho | ho
    · exact hs.apart y hy ho
    · exact hfresh (List.mem_append_left _ (List.mem_singleton.mp ho ▸ hy))
  · intro y hy
    rw [← List.append_assoc] at hy
    rcases List.mem_append.mp hy with hy | hy
    · exact Nat.lt_succ_of_lt (hs.numbers y hy)
    · rw [List.mem_singleton.mp hy, hx]
      exact Nat.lt_succ_self _

theorem addOwn (hs : h.IsShared made theirs) (sink : Sink) : (h.addOwn sink).IsShared made theirs :=
  hs.install rfl

/-- A new handler that the host has made, and not yet put anywhere. -/
theorem make (hs : h.IsShared made theirs) (hx : x.number = h.nextHandler) :
    ({ h with nextHandler := h.nextHandler + 1 } : Host).IsShared (made ++ [x]) theirs where
  nodup := hs.nodup
  others := hs.others
  remembered := hs.remembered
  mem_made := fun y hy => List.mem_append_left _ (hs.mem_made y hy)
  apart := by
    intro y hy ho
    rcases List.mem_append.mp hy with hy | hy
    · exact hs.apart y hy ho
    · obtain rfl := List.mem_singleton.mp hy
      exact hs.not_mem_of_number hx (List.mem_append_right _ ho)
  numbers := by
    intro y hy
    rw [List.append_assoc, List.mem_append, List.mem_append, List.mem_singleton] at hy
    rcases hy with hy | rfl | hy
    · exact Nat.lt_succ_of_lt (hs.numbers y (List.mem_append_left _ hy))
    · exact hx ▸ Nat.lt_succ_self _
    · exact Nat.lt_succ_of_lt (hs.numbers y (List.mem_append_right _ hy))

/-- A handler of the host is put on the root, unless it is there. -/
theorem put (hs : h.IsShared made theirs) (hx : x ∈ made) :
    ({ h with handlers := Handler.putIn x h.handlers } : Host).IsShared made (Handler.putIn x theirs) := by
  have hown : x ∉ h.own := hs.apart x hx
  by_cases hm : x ∈ h.handlers
  · have ht : x ∈ theirs := hs.mem_theirs_iff.mpr ⟨hm, hown⟩
    simp only [Handler.putIn, if_pos hm, if_pos ht]
    exact hs
  · have ht : x ∉ theirs := fun ht => hm (hs.mem_theirs_iff.mp ht).1
    simp only [Handler.putIn, if_neg hm, if_neg ht]
    refine ⟨?_, ?_, ?_, ?_, hs.apart, hs.numbers⟩
    · exact List.nodup_append.mpr ⟨hs.nodup, List.nodup_singleton x, fun y hy z hz he =>
        hm (List.mem_singleton.mp hz ▸ he ▸ hy)⟩
    · rw [List.filter_append, hs.others]
      simp [hown]
    · rw [List.filter_append, hs.remembered]
      simp [hown]
    · intro y hy
      rcases List.mem_append.mp hy with hy | hy
      · exact hs.mem_made y hy
      · exact List.mem_singleton.mp hy ▸ hx

/-- A handler of the host is taken from the root. -/
theorem erase (hs : h.IsShared made theirs) (hx : x ∈ made) :
    ({ h with handlers := h.handlers.erase x } : Host).IsShared made (theirs.erase x) := by
  have hown : x ∉ h.own := hs.apart x hx
  have hnodup : theirs.Nodup := hs.others ▸ hs.nodup.filter _
  refine ⟨hs.nodup.erase x, ?_, ?_, fun y hy => hs.mem_made y (List.mem_of_mem_erase hy), hs.apart,
    hs.numbers⟩
  · rw [hs.nodup.erase_eq_filter, hnodup.erase_eq_filter, List.filter_comm, hs.others]
  · rw [hs.nodup.erase_eq_filter, List.filter_comm, hs.remembered]
    exact List.filter_eq_self.mpr fun y hy => by simpa using fun he : y = x => hown (he ▸ hy)

end IsShared

theorem Installs.addOwn (hi : h.Installs made theirs sinks) (sink : Sink) :
    (h.addOwn sink).Installs made theirs (sinks ++ [sink]) where
  toIsShared := hi.toIsShared.addOwn sink
  behind := by
    change h.handlers ++ [_] = theirs ++ (h.own ++ [_])
    rw [hi.behind, List.append_assoc]
  to_sinks := by
    change (h.own ++ [_]).map _ = _
    rw [List.map_append, hi.to_sinks]
    rfl

theorem Installs.congr (hi : h.Installs made theirs sinks) (hh : h'.handlers = h.handlers)
    (ho : h'.own = h.own) (hn : h'.nextHandler = h.nextHandler) : h'.Installs made theirs sinks where
  toIsShared := hi.toIsShared.congr hh ho hn
  behind := by rw [hh, ho, hi.behind]
  to_sinks := by rw [ho, hi.to_sinks]

theorem Installs.logged (hi : h.Installs made theirs sinks) (hl : h.Logged h') :
    h'.Installs made theirs sinks :=
  hi.congr hl.handlers (by rw [hl.rest]) (by rw [hl.rest])

/-- The sinks of a setup that succeeds: the console, and a file if there is a directory for it. -/
def sinksOf (directory : Option Path) (verbose : Bool) (stamp : String) : List Sink :=
  .console (if verbose then .debug else .info) ::
    (directory.map fun d => .file (d.join { parts := ["macro_stubgen_" ++ stamp ++ ".log"] })).toList

/-- Opening a log file adds its handler, or fails and adds none. -/
theorem Installs.addLogFile? (hi : h.Installs made theirs sinks) (directory : Option Path) :
    ∃ result h', h.addLogFile? directory = (result, h') ∧ h'.IsShared made theirs ∧
      h'.readings = h.readings ∧ h'.initialized = h.initialized ∧ (result = .ok () →
        h'.Installs made theirs (sinks ++ (directory.map fun d => .file (h.logPath d)).toList)) := by
  cases directory with
  | none => exact ⟨_, _, rfl, hi.toIsShared, rfl, rfl, fun _ => by simpa using hi⟩
  | some d =>
    rw [Host.addLogFile?, addLogFile]
    split
    · exact ⟨_, _, rfl, hi.toIsShared, rfl, rfl, fun hok => by cases hok⟩
    · rename_i files hfiles
      dsimp only
      split
      · exact ⟨_, _, rfl, hi.toIsShared.congr rfl rfl rfl, rfl, rfl, fun hok => by cases hok⟩
      · rename_i opened hopened
        have hopened : ({ h with files := opened, logFile := some (h.logPath d) } : Host).Installs
            made theirs sinks := hi.congr rfl rfl rfl
        have hadded := hopened.addOwn (.file (h.logPath d))
        exact ⟨_, _, rfl, hadded.toIsShared, rfl, rfl, fun _ => hadded⟩

/-- A host whose setup has added its console. -/
def withConsole (verbose : Bool) (h : Host) : Host :=
  ({ h with threshold := .debug } : Host).removeOwn.addOwn (.console (if verbose then .debug else .info))

theorem setUp_of_error (hi : h.initialized ≠ true) {directory : Option Path} {verbose : Bool} {f : Failure}
    (hfile : (h.withConsole verbose).addLogFile? directory = (.error f, h')) :
    h.setUp directory verbose = (.error f, h') := by
  rw [withConsole] at hfile
  rw [setUp, if_neg hi]
  dsimp only
  rw [hfile]

theorem setUp_of_ok (hi : h.initialized ≠ true) {directory : Option Path} {verbose : Bool}
    (hfile : (h.withConsole verbose).addLogFile? directory = (.ok (), h')) :
    ∃ last, h.setUp directory verbose = (.ok (), last) ∧
      ({ h' with initialized := true } : Host).Logged last := by
  rw [withConsole] at hfile
  rw [setUp, if_neg hi]
  dsimp only
  rw [hfile]
  exact ⟨_, rfl, (logged_log _ _).trans (logged_log _ _)⟩

theorem installs_withConsole (hs : h.IsShared made theirs) (verbose : Bool) :
    (h.withConsole verbose).Installs made theirs [.console (if verbose then .debug else .info)] := by
  have hopen : ({ h with threshold := .debug } : Host).IsShared made theirs := hs.congr rfl rfl rfl
  exact hopen.removeOwn.addOwn _

/-- Setting up either fails, and then is still to be done, or leaves its own handlers behind all others. -/
theorem setUp_spec (hs : h.IsShared made theirs) (hi : h.initialized ≠ true) (directory : Option Path)
    (verbose : Bool) : ∃ result h', h.setUp directory verbose = (result, h') ∧
      h'.IsShared made theirs ∧ h'.readings = h.readings ∧
      (h'.initialized = true ↔ result = .ok ()) ∧
      (result = .ok () → h'.Installs made theirs (sinksOf directory verbose h.readings.stamp)) := by
  obtain ⟨result, opened, hfile, hshared, hreadings, hinitialized, hinstalls⟩ :=
    (installs_withConsole hs verbose).addLogFile? directory
  cases result with
  | error f =>
    refine ⟨_, _, setUp_of_error hi hfile, hshared, hreadings, iff_of_false ?_ nofun, nofun⟩
    exact hinitialized ▸ hi
  | ok _ =>
    obtain ⟨last, hrun, hlogged⟩ := setUp_of_ok hi hfile
    have hset : ({ opened with initialized := true } : Host).Installs made theirs
        (sinksOf directory verbose h.readings.stamp) := (hinstalls rfl).congr rfl rfl rfl
    have hlast := hset.logged hlogged
    refine ⟨_, _, hrun, hlast.toIsShared, ?_, iff_of_true ?_ rfl, fun _ => ?_⟩
    · rw [hlogged.rest]
      exact hreadings
    · rw [hlogged.rest]
    · exact hlast

theorem setUp_of_initialized (hi : h.initialized = true) (directory : Option Path) (verbose : Bool) :
    h.setUp directory verbose = (.ok (), h) := by
  rw [setUp, if_pos hi]

theorem IsShared.reset (hs : h.IsShared made theirs) : h.reset.Installs made theirs [] :=
  hs.removeOwn.congr rfl rfl rfl

end Host

/-- A call that has set the logging up, and the time that it found. -/
structure SetupCall where
  directory : Option Path
  verbose : Bool
  stamp : String

def SetupCall.sinks (c : SetupCall) : List Sink := Host.sinksOf c.directory c.verbose c.stamp

/-- A host, with what it knows of its own handlers and of the setup's calls. -/
structure Sharing where
  host : Host
  /-- The handlers that the host has made. -/
  made : List Handler := []
  /-- Those of them that it has put on the root, in order. -/
  theirs : List Handler := []
  /-- The first call that succeeded since the last reset. -/
  call : Option SetupCall := none

namespace Sharing

inductive Event where
  | setUp (directory : Option Path) (verbose : Bool)
  | reset
  /-- The host makes a handler. -/
  | make (sink : Sink)
  /-- The host puts a handler that it has made on the root. -/
  | add (x : Handler)
  /-- The host takes a handler that it has made from the root. -/
  | remove (x : Handler)
  /-- Time passes, and others write files. -/
  | pass (files : Files) (readings : Readings)

def step (s : Sharing) : Event → Sharing
  | .setUp directory verbose =>
    let (result, host) := s.host.setUp directory verbose
    let call := result.toOption.map fun _ => { directory, verbose, stamp := s.host.readings.stamp }
    { s with host, call := s.call.or call }
  | .reset => { s with host := s.host.reset, call := none }
  | .make sink =>
    { s with
      host := { s.host with nextHandler := s.host.nextHandler + 1 }
      made := s.made ++ [{ number := s.host.nextHandler, sink }] }
  | .add x =>
    if x ∈ s.made then
      { s with
        host := { s.host with handlers := x.putIn s.host.handlers }
        theirs := x.putIn s.theirs }
    else s
  | .remove x =>
    if x ∈ s.made then
      { s with
        host := { s.host with handlers := s.host.handlers.erase x }
        theirs := s.theirs.erase x }
    else s
  | .pass files readings => { s with host := { s.host with files, readings } }

def after (s : Sharing) (events : List Event) : Sharing := events.foldl step s

variable {s : Sharing} {directory : Option Path} {verbose : Bool}

/-- What the events keep: nobody's handlers are lost, and those of the setup are those of the call that
succeeded. -/
structure IsKept (s : Sharing) : Prop where
  shared : s.host.IsShared s.made s.theirs
  initialized : s.host.initialized = true ↔ s.call.isSome
  sinks : ∀ c ∈ s.call, s.host.own.map (·.sink) = c.sinks

namespace IsKept

theorem not_initialized (hk : s.IsKept) (hc : s.call = none) : s.host.initialized ≠ true := by
  rw [Ne, hk.initialized, hc]
  exact Bool.false_ne_true

theorem setUp (hk : s.IsKept) (directory : Option Path) (verbose : Bool) :
    (s.step (.setUp directory verbose)).IsKept := by
  cases hc : s.call with
  | some c =>
    have hi : s.host.initialized = true := hk.initialized.mpr (by rw [hc]; rfl)
    have hstep : s.step (.setUp directory verbose) = s := by
      rw [step, Host.setUp_of_initialized hi, hc]
      exact congrArg (fun call => { s with call }) hc.symm
    rw [hstep]
    exact hk
  | none =>
    obtain ⟨result, h, hrun, hshared, -, hinitialized, hinstalls⟩ :=
      Host.setUp_spec hk.shared (hk.not_initialized hc) directory verbose
    rw [step, hrun, hc]
    cases result with
    | error f => exact ⟨hshared, hinitialized.trans (by simp [Except.toOption]), nofun⟩
    | ok _ =>
      refine ⟨hshared, iff_of_true (hinitialized.mpr rfl) rfl, ?_⟩
      rintro _ ⟨⟩
      exact (hinstalls rfl).to_sinks

theorem step (hk : s.IsKept) (e : Event) : (s.step e).IsKept := by
  cases e with
  | setUp directory verbose => exact hk.setUp directory verbose
  | reset => exact ⟨hk.shared.reset.toIsShared, iff_of_false Bool.false_ne_true Bool.false_ne_true, nofun⟩
  | make sink => exact ⟨hk.shared.make rfl, hk.initialized, hk.sinks⟩
  | add x =>
    rw [Sharing.step]
    split
    · rename_i hx
      exact ⟨hk.shared.put hx, hk.initialized, hk.sinks⟩
    · exact hk
  | remove x =>
    rw [Sharing.step]
    split
    · rename_i hx
      exact ⟨hk.shared.erase hx, hk.initialized, hk.sinks⟩
    · exact hk
  | pass files readings => exact ⟨hk.shared.congr rfl rfl rfl, hk.initialized, hk.sinks⟩

theorem after (hk : s.IsKept) (events : List Event) : (s.after events).IsKept := by
  induction events generalizing s with
  | nil => exact hk
  | cons e rest ih => exact ih (hk.step e)

end IsKept

/-- Before anything has happened there are no handlers. -/
theorem isKept_fresh (files : Files) (environment : Table String String) (readings : Readings) :
    IsKept { host := { files, environment, readings } } where
  shared := ⟨List.nodup_nil, rfl, rfl, nofun, nofun, nofun⟩
  initialized := iff_of_false Bool.false_ne_true Bool.false_ne_true
  sinks := nofun

/-- Attempts to set the logging up. -/
def attempts (calls : List (Option Path × Bool)) : List Event :=
  calls.map fun (directory, verbose) => .setUp directory verbose

/-- Attempts leave the handlers of the host alone. -/
theorem theirs_after_attempts (hk : s.IsKept) (calls : List (Option Path × Bool)) :
    (s.after (attempts calls)).theirs = s.theirs ∧
      (s.after (attempts calls)).host.readings = s.host.readings := by
  induction calls generalizing s with
  | nil => exact ⟨rfl, rfl⟩
  | cons call rest ih =>
    obtain ⟨htheirs, hreadings⟩ := ih (hk.setUp call.1 call.2)
    have hfirst : (s.step (.setUp call.1 call.2)).host.readings = s.host.readings := by
      by_cases hi : s.host.initialized = true
      · rw [step, Host.setUp_of_initialized hi]
      · obtain ⟨result, h, hrun, -, hsame, -⟩ := Host.setUp_spec hk.shared hi call.1 call.2
        rw [step, hrun]
        exact hsame
    exact ⟨htheirs, hreadings.trans hfirst⟩

/-- However a host puts handlers of its own on the root and takes them away, and however the setup is
called, fails and is reset:
* the handlers are those of the host, in its order, and those that the setup remembers, each once;
* the logging is set up exactly since a call has succeeded, and the setup's handlers are those of that
  call: one for the console, and one for a file exactly if a directory was given;
* another call changes nothing then, and a call that fails leaves the logging to be set up;
* a call that succeeds after any that failed puts its handlers behind all others, as if it were the
  first;
* a reset leaves the handlers of the host alone. -/
theorem shares_root (files : Files) (environment : Table String String) (readings : Readings)
    (events : List Event) :
    let s := after { host := { files, environment, readings } } events
    (s.host.handlers.Nodup ∧ s.host.handlers.filter (fun x => !s.host.own.contains x) = s.theirs ∧
      s.host.handlers.filter (fun x => s.host.own.contains x) = s.host.own) ∧
    (s.host.initialized = true ↔ s.call.isSome) ∧
    (∀ c ∈ s.call, s.host.own.map (·.sink) = .console (if c.verbose then .debug else .info) ::
      (c.directory.map fun d =>
        .file (d.join { parts := ["macro_stubgen_" ++ c.stamp ++ ".log"] })).toList) ∧
    (∀ directory verbose, s.host.initialized = true →
      s.host.setUp directory verbose = (.ok (), s.host)) ∧
    (∀ directory verbose, (s.host.setUp directory verbose).2.initialized = true ↔
      (s.host.setUp directory verbose).1 = .ok ()) ∧
    (∀ failed directory verbose h, (s.after (attempts failed)).call = none →
      (s.after (attempts failed)).host.setUp directory verbose = (.ok (), h) →
      h.handlers = s.theirs ++ h.own ∧
      h.own.map (·.sink) = Host.sinksOf directory verbose s.host.readings.stamp) ∧
    s.host.reset.handlers = s.theirs ∧ s.host.reset.own = [] ∧ s.host.reset.initialized = false := by
  intro s
  have hk : s.IsKept := (isKept_fresh files environment readings).after events
  refine ⟨⟨hk.shared.nodup, hk.shared.others, hk.shared.remembered⟩, hk.initialized, hk.sinks,
    fun _ _ hi => Host.setUp_of_initialized hi _ _, ?_, ?_, hk.shared.others, rfl, rfl⟩
  · intro directory verbose
    by_cases hi : s.host.initialized = true
    · rw [Host.setUp_of_initialized hi]
      exact iff_of_true hi rfl
    · obtain ⟨result, h, hrun, -, -, hinitialized, -⟩ := Host.setUp_spec hk.shared hi directory verbose
      rw [hrun]
      exact hinitialized
  · intro failed directory verbose h hc hrun
    have ht := hk.after (attempts failed)
    obtain ⟨htheirs, hreadings⟩ := theirs_after_attempts hk failed
    obtain ⟨result, h', hrun', -, -, -, hinstalls⟩ :=
      Host.setUp_spec ht.shared (ht.not_initialized hc) directory verbose
    obtain ⟨rfl, rfl⟩ := Prod.mk.inj (hrun'.symm.trans hrun)
    have hlast := hinstalls rfl
    exact ⟨htheirs ▸ hlast.behind, hreadings ▸ hlast.to_sinks⟩

/-- A working directory in which a file lies where the logs are to be kept. -/
def occupied : Files where
  cwd := { root := "/", parts := ["work"] }
  nodes := [(["work"], .directory), (["work", "logs"], .file "")]

def firstReadings : Readings := { (default : Readings) with stamp := "1" }

def hostHandler : Handler := { number := 0, sink := .foreign }

/-- A host with a handler of its own, there. -/
def crowded : Sharing :=
  after { host := { files := occupied, environment := [], readings := firstReadings } }
    [.make .foreign, .add hostHandler]

/-- The same after a call that could not make its directory. -/
def refused : Sharing := crowded.after (attempts [(some { parts := ["logs"] }, true)])

/-- A call without a directory succeeds behind one that failed. -/
theorem shares_root_of_refused :
    refused.call = none ∧ ∃ h, refused.host.setUp none false = (.ok (), h) ∧
      h.handlers = hostHandler :: h.own ∧ h.own.map (·.sink) = [.console .info] := by
  obtain ⟨-, -, -, -, -, hretry, -⟩ :=
    shares_root occupied [] firstReadings [.make .foreign, .add hostHandler]
  have hcall : refused.call = none := Option.isNone_iff_eq_none.mp (by decide +kernel)
  have hrun : (refused.host.setUp none false).1 = .ok () := rfl
  exact ⟨hcall, _, Prod.ext hrun rfl, hretry _ none false _ hcall (Prod.ext hrun rfl)⟩

end Sharing
end MacroStubs
