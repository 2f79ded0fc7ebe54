import TenantSearch.Command.Basic
import TenantSearch.Settings.Load

/-!
# `TenantSearch.Proofs.Settings.Precedence`: which source decides a setting

Two files are merged section by section, the result is laid under the options, and what is left
open gets a standard value. Along that way a setting passes through four records that have a
field for it. A `Setting` names one setting in all of them, so what holds of all settings is said
once.

`Setting.value_combine` is the rule: a setting has the first value among those of the options, the
overlay, the profile and the standard. Nothing else in the sources has a say in it.
-/

set_option autoImplicit false

namespace TenantSearch.Settings

/-- A setting with values of a type. -/
inductive Setting : Type → Type where
  | host : Setting String
  | port : Setting UInt16
  | url : Setting String
  | database : Setting String
  | username : Setting String
  | password : Setting String
  | timeoutSeconds : Setting UInt64
  | maxAttempts : Setting UInt32
  | baseDelayMillis : Setting UInt64
  | standardLimit : Setting Int64
  | largestLimit : Setting Int64

namespace Setting

variable {α : Type}

/-- What the options say about the setting. -/
def inOptions : Setting α → Layer → Option α
  | host => Layer.host
  | port => Layer.port
  | url => Layer.url
  | database => Layer.database
  | username => Layer.username
  | password => Layer.password
  | timeoutSeconds => Layer.timeoutSeconds
  | maxAttempts => Layer.maxAttempts
  | baseDelayMillis => Layer.baseDelayMillis
  | standardLimit => Layer.standardLimit
  | largestLimit => Layer.largestLimit

/-- What a file says about the setting, in the section where it belongs. -/
def inFile : Setting α → File → Option α
  | host, f => f.server.bind File.Server.host
  | port, f => f.server.bind File.Server.port
  | url, f => f.graph.bind File.Graph.url
  | database, f => f.graph.bind File.Graph.database
  | username, f => f.graph.bind File.Graph.username
  | password, f => f.graph.bind File.Graph.password
  | timeoutSeconds, f => f.graph.bind File.Graph.timeoutSeconds
  | maxAttempts, f => f.consistency.bind File.Consistency.maxAttempts
  | baseDelayMillis, f => f.consistency.bind File.Consistency.baseDelayMillis
  | standardLimit, f => f.paging.bind File.Paging.standardLimit
  | largestLimit, f => f.paging.bind File.Paging.largestLimit

/-- The value without a word from anyone. There is neither a name nor a password then. -/
def standard : Setting α → Option α
  | host => some "127.0.0.1"
  | port => some 5390
  | url => some "http://localhost:7474"
  | database => some "neo4j"
  | username => none
  | password => none
  | timeoutSeconds => some 30
  | maxAttempts => some 5
  | baseDelayMillis => some 100
  | standardLimit => some 20
  | largestLimit => some 100

/-- The value among the settings of the program. -/
def value : Setting α → Settings → Option α
  | host, s => some s.host
  | port, s => some s.port
  | url, s => some s.graph.url
  | database, s => some s.graph.database
  | username, s => s.graph.username
  | password, s => s.graph.password
  | timeoutSeconds, s => some s.graph.timeoutSeconds
  | maxAttempts, s => some s.maxAttempts
  | baseDelayMillis, s => some s.baseDelayMillis
  | standardLimit, s => some s.limits.standard
  | largestLimit, s => some s.limits.largest

/-! ### Merged files -/

/-- A member of a merged section is that of the upper section, or else that of the lower one. A
section that is missing counts as one without members. -/
theorem bind_mergeSection {β : Type} {merge : α → α → α} {empty : α} {member : α → Option β}
    (hmerge : ∀ upper lower, member (merge upper lower) = (member upper).or (member lower))
    (hempty : member empty = none) (upper lower : Option α) :
    (File.mergeSection merge empty upper lower).bind member =
      (upper.bind member).or (lower.bind member) := by
  cases upper with
  | none => simp [File.mergeSection]
  | some upper =>
    cases lower with
    | none => simp [File.mergeSection, hmerge, hempty]
    | some lower => simp [File.mergeSection, hmerge]

/-- An empty file sets nothing. -/
theorem inFile_empty (x : Setting α) : x.inFile {} = none := by
  cases x <;> rfl

/-- Of two files, the upper one sets what it has, and the lower one the rest. Sections are merged
member by member, so one setting does not hide another. -/
theorem inFile_over (x : Setting α) (upper lower : File) :
    x.inFile (upper.over lower) = (x.inFile upper).or (x.inFile lower) := by
  cases x <;> exact bind_mergeSection (fun _ _ => rfl) rfl _ _

/-- A file that is present goes over what was found before. -/
theorem inFile_putFile (x : Setting α) (file : Option File) (found : File) :
    x.inFile (putFile file found) = (file.bind x.inFile).or (x.inFile found) := by
  cases file with
  | none => simp [putFile]
  | some file => simp [putFile, inFile_over]

/-- The overlay goes over the profile. -/
theorem inFile_mergeFiles (x : Setting α) (overlay profile : Option File) :
    x.inFile (mergeFiles overlay profile) = (overlay.bind x.inFile).or (profile.bind x.inFile) := by
  rw [mergeFiles, inFile_putFile, inFile_putFile, inFile_empty, Option.or_none]

/-! ### Layers -/

/-- A file sets as a layer what it sets as a file. -/
theorem inOptions_layer (x : Setting α) (f : File) : x.inOptions f.layer = x.inFile f := by
  cases x <;> rfl

/-- Of two layers, the upper one sets what it has, and the lower one the rest. -/
theorem inOptions_over (x : Setting α) (upper lower : Layer) :
    x.inOptions (upper.over lower) = (x.inOptions upper).or (x.inOptions lower) := by
  cases x <;> rfl

/-- What the layer leaves open has the standard value. -/
theorem value_ofLayer (x : Setting α) (l : Layer) :
    x.value (ofLayer l) = (x.inOptions l).or x.standard := by
  -- There is no standard name and no standard password, and the settings may lack them.
  cases x with
  | username => exact Option.or_none.symm
  | password => exact Option.or_none.symm
  | _ => exact Option.or_some.symm

/-- A setting has the first value among those of the options, the overlay, the profile and the
standard. -/
theorem value_combine (x : Setting α) (options : Layer) (overlay profile : Option File) :
    x.value (combine options overlay profile) =
      (x.inOptions options).or
        ((overlay.bind x.inFile).or ((profile.bind x.inFile).or x.standard)) := by
  rw [combine, value_ofLayer, inOptions_over, inOptions_layer, inFile_mergeFiles, Option.or_assoc,
    Option.or_assoc]

end Setting

/-! ### The output for debugging -/

/-- The output for debugging follows the same order as the other settings. -/
theorem debug_mergeFiles (overlay profile : Option File) :
    (mergeFiles overlay profile).debug =
      (overlay.bind File.debug).or (profile.bind File.debug) := by
  cases overlay <;> cases profile <;> simp [mergeFiles, putFile, File.over]

/-- The settings are those that the sources say: the command line, the overlay and the profile,
in this order. -/
structure Decided (i : Command.Invocation) (overlay profile : Option File) (s : Settings) :
    Prop where
  /-- The first source that mentions a setting decides it. -/
  setting : ∀ {α : Type} (x : Setting α),
    x.value s =
      (x.inOptions i.layer).or
        ((overlay.bind x.inFile).or ((profile.bind x.inFile).or x.standard))
  /-- The command line can turn the output for debugging on, but not off. -/
  debug : s.debug =
    (i.debug || ((overlay.bind File.debug).or (profile.bind File.debug)).getD false)

/-- Every setting is decided by the first source that has it. The flag for debugging can only be
switched on at the command line, so that one has a field of its own. -/
theorem decided_combine (i : Command.Invocation) (overlay profile : Option File) :
    Decided i overlay profile (combine i.options overlay profile) where
  setting x := by
    -- The options differ from the layer of the command line in the output for debugging only.
    have hoptions : x.inOptions i.options = x.inOptions i.layer := by cases x <;> rfl
    rw [x.value_combine, hoptions]
  debug := by
    have hdebug : (combine i.options overlay profile).debug =
        ((if i.debug then some true else none).or (mergeFiles overlay profile).debug).getD false :=
      rfl
    rw [hdebug, debug_mergeFiles]
    cases i.debug <;> simp

/-- What the sources say leaves nothing open. Two settings that are decided by the same sources are
the same in every field. -/
theorem Decided.unique {i : Command.Invocation} {overlay profile : Option File} {s t : Settings}
    (hs : Decided i overlay profile s) (ht : Decided i overlay profile t) : s = t := by
  have hvalue {α : Type} (x : Setting α) : x.value s = x.value t := by
    rw [hs.setting, ht.setting]
  have hdebug : s.debug = t.debug := by rw [hs.debug, ht.debug]
  -- Every field is the value of a setting, or the output for debugging.
  obtain ⟨host, port, ⟨url, database, username, password, timeout⟩, attempts, delay,
    ⟨standard, largest⟩, debug⟩ := s
  obtain ⟨host', port', ⟨url', database', username', password', timeout'⟩, attempts', delay',
    ⟨standard', largest'⟩, debug'⟩ := t
  cases hvalue .host
  cases hvalue .port
  cases hvalue .url
  cases hvalue .database
  cases hvalue .username
  cases hvalue .password
  cases hvalue .timeoutSeconds
  cases hvalue .maxAttempts
  cases hvalue .baseDelayMillis
  cases hvalue .standardLimit
  cases hvalue .largestLimit
  cases hdebug
  rfl

end TenantSearch.Settings
