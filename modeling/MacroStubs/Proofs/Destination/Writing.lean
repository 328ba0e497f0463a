import MacroStubs.Program
import MacroStubs.Proofs.Destination.Running
import MacroStubs.Proofs.Stub.Blocks

/-! # What a run leaves at its destination

Nothing is written to the destination before all macros have been extracted. A run that fails until then
leaves it as it was, one that fails later leaves the text that was written so far, and one that succeeds
leaves the text of the stub. Logs and application modules have to stay away from it.
-/

namespace MacroStubs

variable {s : Place} {w : World} {σ τ : State} {path : Path}

namespace Generator

variable {importModule : String → Run Unit} {identifiers : List String} {found : List ClassMacros}

/-- Writes the stub of macros to a file, as a generator does with what it has collected. -/
def deliver (w : World) (found : List ClassMacros) (path : Path) : Run Path := do
  writeFile path ""
  let (result, text) ← emit w (Reach.of w) found
  writeFile path text
  Run.ofExcept result
  Run.debug reporter s!"Wrote {found.length} class block(s) to {path.text}"
  pure path

theorem deliver_of_error {f : Failure} (h : τ.host.files.write path "" = .error f) :
    (deliver w found path).run τ = (.error f, τ) := by
  rw [deliver]
  refine Run.bind_of_error ?_
  rw [writeFile_run, h]

/-- Where the file can be opened, it holds in the end what was written, to its end or not. -/
theorem deliver_of_ok {opened : Files} (h : τ.host.files.write path "" = .ok opened) :
    ∃ host, (deliver w found path).run τ =
        ((ClassMacros.write w τ found).1.map fun _ => path, { τ with host }) ∧
      host.Holds path (ClassMacros.write w τ found).2.text ∧
      host.handlers = τ.host.handlers ∧ host.files.cwd = τ.host.files.cwd := by
  have hopen : (writeFile path "").run τ =
      (.ok (), { τ with host := { τ.host with files := opened } }) := by rw [writeFile_run, h]
  have hemit := emit_run (w := w) (σ := { τ with host := { τ.host with files := opened } }) found
  have hlogged := Host.logged_logAll { τ.host with files := opened }
    (ClassMacros.write w τ found).2.notes
  rw [ClassMacros.write_withHost] at hemit
  dsimp only at hemit
  generalize Host.logAll _ ({ τ.host with files := opened } : Host) = logged at hemit hlogged
  obtain ⟨files, hagain⟩ := Files.write_again h hlogged.grows (ClassMacros.write w τ found).2.text
  have hheld := Host.holds_write hagain
  have hcwd : files.cwd = τ.host.files.cwd := by
    obtain ⟨-, _, -, -, rfl⟩ := Files.write_eq_ok hagain
    obtain ⟨-, _, -, -, rfl⟩ := Files.write_eq_ok h
    exact hlogged.grows.cwd
  rw [deliver, Run.bind_of_ok hopen, Run.bind_of_ok hemit]
  dsimp only
  rw [Run.run_bind, writeFile_run, hagain]
  dsimp only
  cases (ClassMacros.write w τ found).1 with
  | error f => exact ⟨_, rfl, hheld, hlogged.handlers, hcwd⟩
  | ok _ =>
    have hdebug := Host.logged_log { logged with files }
      { level := .debug, reporter, message := s!"Wrote {found.length} class block(s) to {path.text}" }
    exact ⟨_, rfl, hheld.logged hdebug, hdebug.handlers.trans hlogged.handlers,
      hdebug.grows.cwd.trans hcwd⟩

theorem render_of_collected {p : Progress}
    (h : (collected w (Reach.of w) importModule identifiers).run σ = (.ok (p, found), τ)) :
    ((render w (Reach.of w) importModule identifiers).run σ).1 =
      .ok (p, (ClassMacros.write w τ found).1, (ClassMacros.write w τ found).2.text) := by
  rw [render, Run.bind_of_ok h, Run.bind_of_ok (emit_run found)]
  rfl

/-- What a writing of a stub leaves at its destination, by how far it comes: `before` lay there first. -/
def Leaves (w : World) (importModule : String → Run Unit) (identifiers : List String) (path : Path)
    (σ : State) (before after : Option Node) (result : Except Failure Path) : Prop :=
  match (collected w (Reach.of w) importModule identifiers).run σ with
  | (.error f, _) => result = .error f ∧ after = before
  | (.ok (p, found), τ) =>
    match τ.host.files.write path "" with
    | .error f => result = .error f ∧ after = before
    | .ok _ =>
      let text := (ClassMacros.write w τ found).2.text
      after = some (.file text) ∧
        match (ClassMacros.write w τ found).1 with
        | .error f => result = .error f ∧ ∃ done failing rest more,
            found = done ++ failing :: rest ∧ (∀ c ∈ done, c.IsTold w τ) ∧ ¬ failing.IsTold w τ ∧
              text = ClassMacros.sheetText (done.map (·.block w τ)) ++ more
        | .ok () => result = .ok path ∧
            ((render w (Reach.of w) importModule identifiers).run σ).1 = .ok (p, .ok (), text)

theorem deliver_leaves (h : ∀ module, (importModule module).Spares s) (hp : s.IsOf path)
    (ha : σ.host.IsApart s) : ∃ result σ',
    (do
      let (_, found) ← collected w (Reach.of w) importModule identifiers
      deliver w found path).run σ = (result, σ') ∧ σ'.host.IsApart s ∧
        Leaves w importModule identifiers path σ (σ.node? s) (σ'.node? s) result := by
  have hcollected := @spares_collected s w (Reach.of w) importModule identifiers h σ ha
  rw [Run.run_bind]
  unfold Leaves
  generalize hrun : (collected w (Reach.of w) importModule identifiers).run σ = outcome at hcollected ⊢
  obtain ⟨answer, τ⟩ := outcome
  have hτ := hcollected.isApart ha
  cases answer with
  | error f => exact ⟨_, _, rfl, hτ, rfl, hcollected.files.node⟩
  | ok answer =>
    obtain ⟨p, found⟩ := answer
    dsimp only
    cases hopen : τ.host.files.write path "" with
    | error f => exact ⟨_, _, deliver_of_error hopen, hτ, rfl, hcollected.files.node⟩
    | ok opened =>
      obtain ⟨host, hdeliver, hheld, hhandlers, hcwd⟩ := @deliver_of_ok w τ path found opened hopen
      have hrender := render_of_collected hrun
      have ha' : host.IsApart s := ⟨hcwd.trans hτ.cwd, hhandlers ▸ hτ.handlers⟩
      have hplace : host.placeOf path = s := by
        rw [Host.placeOf, ha'.cwd]
        exact congrArg (Place.mk s.cwd) hp
      have hnode := hheld.whole (hplace ▸ ha')
      rw [hplace] at hnode
      refine ⟨_, _, hdeliver, ha', hnode, ?_⟩
      cases hwrite : (ClassMacros.write w τ found).1 with
      | error f =>
        refine ⟨rfl, ?_⟩
        obtain ⟨done, failing, rest, hfound, hdone, hfailing, more, htext⟩ :=
          ClassMacros.text_write_of_error hwrite
        exact ⟨done, failing, rest, more, hfound, hdone, hfailing, htext⟩
      | ok _ => exact ⟨rfl, hwrite ▸ hrender⟩

/-- Nothing is written to the destination before all macros are extracted. -/
theorem write_leaves (h : ∀ module, (importModule module).Spares s) (hp : s.IsOf path)
    (ha : σ.host.IsApart s) : ∃ result σ',
    (write w (Reach.of w) importModule identifiers path).run σ = (result, σ') ∧ σ'.host.IsApart s ∧
      Leaves w importModule identifiers path σ (σ.node? s) (σ'.node? s) result := by
  obtain ⟨result, τ, hrun, hτ, hleaves⟩ := @deliver_leaves s w σ path importModule identifiers h hp ha
  obtain ⟨host, hwrite, hlogged⟩ := Run.timed_run reporter "MacroStubGenerator.write" hrun
  have hspares := hlogged.spares hτ
  have hnode : ({ τ with host } : State).node? s = τ.node? s := hspares.files.node
  exact ⟨result, _, hwrite, hspares.isApart hτ, hnode ▸ hleaves⟩

end Generator

namespace Program

variable {importModule : String → Run Unit} {a : Arguments} {c : Config}

/-- Imports the configured modules and gives the file to write, which is known before. -/
def boot (importModule : String → Run Unit) (c : Config) : Run Path := do
  let path ← Run.read fun σ => c.outputPath σ.host.environment
  Run.debug reporter ("Base path: " ++ c.basePath.text)
  Run.debug reporter ("Output file: " ++ path.text)
  Bootstrap.run importModule c.bootstrapModules (some c.basePath)
  pure path

/-- What a run does before it writes a stub: the logging is set up and the configured modules are
imported. -/
def prepare (importModule : String → Run Unit) (a : Arguments) (c : Config) : Run Path := do
  if a.logDir = .emptied then throw (.noAttribute "list" "mkdir")
  ofHost (Host.setUp c.logDir c.verbose)
  boot importModule c

theorem generate_eq : generate w importModule c = Run.timed reporter "generate_stubs" (do
    let path ← boot importModule c
    Generator.write w (Reach.of w) importModule c.allClasses path) := by
  simp only [generate, boot, bind_assoc, pure_bind]

theorem spares_boot (h : ∀ module, (importModule module).Spares s) :
    (boot importModule c).Spares s := by
  have hP := Run.Closed.spares s
  exact hP.bind (hP.read _) fun _ => hP.bind (hP.debug _ _) fun _ => hP.bind (hP.debug _ _) fun _ =>
    hP.bind (Bootstrap.closed_run hP Bootstrap.spares_addPath h _ _) fun _ => hP.pure _

theorem boot_eq_ok (h : (boot importModule c).run σ = (.ok path, τ)) :
    c.outputPath σ.host.environment = .ok path := by
  obtain ⟨path', σ₁, hread, h⟩ := Run.run_bind_eq_ok.mp h
  obtain ⟨_, σ₂, -, h⟩ := Run.run_bind_eq_ok.mp h
  obtain ⟨_, σ₃, -, h⟩ := Run.run_bind_eq_ok.mp h
  obtain ⟨_, σ₄, -, h⟩ := Run.run_bind_eq_ok.mp h
  obtain rfl : path' = path := Except.ok.inj (Prod.mk.inj h).1
  exact (Prod.mk.inj hread).1

/-- What is left at the destination of a run, by how far the run comes. -/
def Leaves (w : World) (importModule : String → Run Unit) (c : Config)
    (before after : Option Node) (result : Except Failure Path) : Except Failure Path × State → Prop
  | (.error f, _) => result = .error f ∧ after = before
  | (.ok path, σ) => Generator.Leaves w importModule c.allClasses path σ before after result

theorem boot_leaves (h : ∀ module, (importModule module).Spares s)
    (hpath : c.outputPath σ.host.environment = .ok path) (hp : s.IsOf path)
    (ha : σ.host.IsApart s) : ∃ result σ',
    (do
      let path ← boot importModule c
      Generator.write w (Reach.of w) importModule c.allClasses path).run σ = (result, σ') ∧
      σ'.host.IsApart s ∧
        Leaves w importModule c (σ.node? s) (σ'.node? s) result ((boot importModule c).run σ) := by
  have hspares := spares_boot h σ ha (c := c)
  rw [Run.run_bind]
  generalize hrun : (boot importModule c).run σ = outcome at hspares ⊢
  obtain ⟨answer, ρ⟩ := outcome
  have hρ := hspares.isApart ha
  have hbefore : ρ.node? s = σ.node? s := hspares.files.node
  cases answer with
  | error f => exact ⟨_, ρ, rfl, hρ, rfl, hbefore⟩
  | ok path' =>
    obtain rfl : path' = path := Except.ok.inj ((boot_eq_ok hrun).symm.trans hpath)
    obtain ⟨result, τ, hwrite, hτ, hleaves⟩ :=
      @Generator.write_leaves s w ρ path' importModule c.allClasses h hp hρ
    exact ⟨result, τ, hwrite, hτ, hbefore ▸ hleaves⟩

theorem generate_leaves (h : ∀ module, (importModule module).Spares s)
    (hpath : c.outputPath σ.host.environment = .ok path) (hp : s.IsOf path)
    (ha : σ.host.IsApart s) : ∃ result σ',
    (generate w importModule c).run σ = (result, σ') ∧ σ'.host.IsApart s ∧
      Leaves w importModule c (σ.node? s) (σ'.node? s) result ((boot importModule c).run σ) := by
  obtain ⟨result, τ, hrun, hτ, hleaves⟩ := boot_leaves h hpath hp ha (w := w)
  obtain ⟨host, hgenerate, hlogged⟩ := Run.timed_run reporter "generate_stubs" hrun
  have hspares := hlogged.spares hτ
  have hnode : ({ τ with host } : State).node? s = τ.node? s := hspares.files.node
  exact ⟨result, _, generate_eq ▸ hgenerate, hspares.isApart hτ, hnode ▸ hleaves⟩

end Program

/-- A run that fails before it writes its stub leaves its destination as it was. One that fails while it
writes leaves what was written so far, with the header and the blocks of all classes before the one that
failed, and one that succeeds leaves what is rendered where the modules have been imported. Logs are kept
elsewhere, and no module writes to the destination itself. -/
theorem destination_of_run (a : Arguments) (c : Config) {path : Path}
    (hpath : c.outputPath σ.host.environment = .ok path) (hp : s.IsOf path) (ha : σ.host.IsApart s)
    (hl : ∀ d, c.logDir = some d → σ.host.LogsApart s d) (hw : w.Spares s) : ∃ result σ',
    (Program.runConfigured w (importModule w) a c).run σ = (result.map fun _ => .code 0, σ') ∧
      Program.Leaves w (importModule w) c (σ.node? s) (σ'.node? s) result
        ((Program.prepare (importModule w) a c).run σ) := by
  rw [Program.runConfigured, Program.prepare]
  split
  · exact ⟨.error _, σ, rfl, rfl, rfl⟩
  have hsetup := Host.setUp_setUp ha hl c.verbose
  have hrun : (Program.ofHost (Host.setUp c.logDir c.verbose)).run σ =
      ((σ.host.setUp c.logDir c.verbose).1, { σ with host := (σ.host.setUp c.logDir c.verbose).2 }) :=
    rfl
  generalize σ.host.setUp c.logDir c.verbose = outcome at hsetup hrun
  obtain ⟨answer, host⟩ := outcome
  have hbefore : ({ σ with host } : State).node? s = σ.node? s := hsetup.files.node
  cases answer with
  | error f =>
    refine ⟨.error f, _, Run.bind_of_error hrun, ?_⟩
    rw [Run.bind_of_error hrun]
    exact ⟨rfl, hbefore⟩
  | ok _ =>
    have hpath' : c.outputPath host.environment = .ok path := hsetup.environment ▸ hpath
    obtain ⟨result, τ, hgenerate, hτ, hleaves⟩ :=
      @Program.generate_leaves s w { σ with host } path _ c (spares_importModule hw) hpath' hp
        hsetup.apart
    rw [Run.bind_of_ok hrun, Run.bind_of_ok hrun, ← hbefore]
    cases result with
    | error f => exact ⟨.error f, τ, Run.bind_of_error hgenerate, hleaves⟩
    | ok written =>
      have hreport (r : Record) : ({ τ with host := τ.host.log r } : State).node? s = τ.node? s :=
        ((Host.logged_log τ.host r).spares hτ).files.node
      exact ⟨.ok written, _, Run.bind_of_ok hgenerate, hreport _ ▸ hleaves⟩

namespace Desk

def tap : Value := .function "tap" "tap" [] .null (.returns .null)

/-- A directory with an older stub. -/
def host : Host where
  files :=
    { cwd := { root := "/", parts := ["work"] }
      nodes := [(["work"], .directory), (["work", "stub.pyi"], .file "old")] }
  readings := { (default : Readings) with stamp := "1" }

/-- A module with a class that keeps a macro and one that also keeps a pair without a method. -/
def site : Site :=
  ((Site.empty host).addClass "Till" "Till" "Till" "app" [] .null
      [(sharedField, .dict [(.str "tap", tap)])]).addClass "Desk" "Desk" "Desk" "app" [] .null
      [(sharedField, .dict [(.str "tap", tap),
        (.str "gone", .tuple [.cls (.defined "Till"), .str "gone"])])]
    |>.addModules [{ name := "app", attributes :=
      [("Till", .cls (.defined "Till")), ("Desk", .cls (.defined "Desk"))] }]

/-- A module that writes a stub and raises. -/
def writing : Site :=
  (Site.empty host).addModules
    [{ name := "app", body := [.write [] "stub.pyi"]
       failure := some { kind := "ValueError", message := "" } }]

def place (name : String) : Place := { cwd := host.files.cwd, names := ["work", name] }

/-- A run that writes to a file, with its logs in a directory. -/
def configured (name directory : String) (classes : List String) : Config where
  classes := classes
  filename := some { parts := [name] }
  basePath := host.files.cwd
  bootstrapModules := ["app"]
  logDir := some { parts := [directory] }

def both : Config := configured "stub.pyi" "logs" ["app:Till", "app:Desk"]

/-- How a run ends, and what lies at a place then. -/
def ending (s : Site) (c : Config) (name : String) : Option Exit × Option Node :=
  let (result, σ) := (Program.runConfigured s.world (importModule s.world) {} c).run s.state
  (result.toOption, σ.node? (place name))

/-- Whether a run comes so far that classes are collected. -/
def isPrepared (s : Site) (c : Config) : Bool :=
  ((Program.prepare (importModule s.world) {} c).run s.state).1.toOption.isSome

def stub : String :=
  "# -*- coding: utf-8 -*-\n\n# region app\nclass Till:\n    @staticmethod\n    def tap():\n" ++
    "        ...\n# endregion\n"

def unfinished : String :=
  "\n# region app\nclass Desk:\n    @staticmethod\n    def tap():\n        ...\n\n"

theorem isApart : site.state.host.IsApart (place "stub.pyi") where
  cwd := rfl
  handlers := nofun

theorem logsApart (d : Path) (hd : some { parts := ["logs"] } = some d) :
    site.state.host.LogsApart (place "stub.pyi") d := by
  obtain rfl := Option.some.inj hd
  exact
    { file := by decide
      above := nofun }

theorem spares : site.world.Spares (place "stub.pyi") := by
  intro m hm
  obtain rfl := List.mem_singleton.mp hm
  exact nofun

end Desk

open Desk in
/-- An older stub is replaced by the new one, or by its beginning where a pair cannot be told. -/
theorem stub_replaced :
    (∃ result σ', (Program.runConfigured site.world (importModule site.world) {} both).run
        site.state = (result.map fun _ => .code 0, σ') ∧
      Program.Leaves site.world (importModule site.world) both (some (.file "old"))
        (σ'.node? (place "stub.pyi")) result
        ((Program.prepare (importModule site.world) {} both).run site.state)) ∧
      ending site both "stub.pyi" = (none, some (.file (stub ++ unfinished))) ∧
      ending site (configured "stub.pyi" "logs" ["app:Till"]) "stub.pyi" =
        (some (.code 0), some (.file stub)) :=
  ⟨destination_of_run {} both rfl rfl isApart logsApart spares, by decide +kernel,
    by decide +kernel⟩

open Desk in
/-- Before anything is collected, logs may make the destination their directory, and a module may write
to it, and a failure takes neither back. -/
theorem destination_changed :
    isPrepared (Site.empty host) (configured "out" "out" []) = false ∧
      (Site.empty host).state.node? (place "out") = none ∧
      ending (Site.empty host) (configured "out" "out" []) "out" = (none, some .directory) ∧
      isPrepared writing (configured "stub.pyi" "logs" []) = false ∧
      writing.state.node? (place "stub.pyi") = some (.file "old") ∧
      ending writing (configured "stub.pyi" "logs" []) "stub.pyi" =
        (none, some (.file "# -*- coding: utf-8 -*-\n")) := by
  decide +kernel

end MacroStubs
