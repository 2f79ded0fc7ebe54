import Mathlib.Data.List.TakeWhile
import TenantSearch.Proofs.Search.Paging
import TenantSearch.Proofs.Settings.Precedence

/-!
# `TenantSearch.Proofs.Settings.Load`: what loading the settings guarantees

Settings are checked once, when they are loaded. Further on there are safety nets: a wait raises
its numbers to the least ones, a page size is brought between bounds, and a client refuses an
empty address. Settings that pass the check never touch these nets (`Valid.safe`), so what the
sources say is what the program does.

`load_loaded` puts this together with the precedence of the sources.
-/

set_option autoImplicit false

namespace TenantSearch.Settings

open TenantSearch.Time (Duration)

/-! ### Valid settings -/

/-- Settings that make sense. -/
structure Valid (s : Settings) : Prop where
  host : s.host ≠ ""
  port : s.port ≠ 0
  url : ∃ scheme ∈ ["http://", "https://"], scheme.toList <+: s.graph.url.toList
  database : s.graph.database ≠ ""
  timeout : s.graph.timeoutSeconds ≠ 0
  attempts : s.maxAttempts ≠ 0
  delay : s.baseDelayMillis ≠ 0
  standard : 1 ≤ s.limits.standard.toInt
  largest : s.limits.standard.toInt ≤ s.limits.largest.toInt

/-- An address of the web begins with one of two schemes. -/
theorem isWebAddress_iff (url : String) :
    isWebAddress url = true ↔
      ∃ scheme ∈ ["http://", "https://"], scheme.toList <+: url.toList := by
  simp [isWebAddress, Text.beginsWith]

/-- A text with a character that is not blank has something left between its ends. So the check for
a blank address can only fail where the check for its scheme would. -/
theorem trim_ne_empty {s : String} {c : Char} (hc : c ∈ s.toList)
    (hblank : Text.isBlank c = false) : Text.trim s ≠ "" := by
  intro hempty
  have hends : ∀ d ∈ s.toList.dropWhile Text.isBlank, Text.isBlank d = true := by
    rw [Text.trim, String.ofList_eq_empty_iff, List.reverse_eq_nil_iff,
      List.dropWhile_eq_nil_iff] at hempty
    intro d hd
    exact hempty d (List.mem_reverse.2 hd)
  -- What is left after the blank start does not begin with a blank, so nothing is left.
  have hstart : s.toList.dropWhile Text.isBlank = [] := by
    by_contra hne
    have hhead := List.head_dropWhile_not Text.isBlank hne
    rw [hends _ (List.head_mem hne)] at hhead
    cases hhead
  rw [List.dropWhile_eq_nil_iff.1 hstart c hc] at hblank
  cases hblank

/-- A web address begins with a letter. -/
theorem mem_of_isWebAddress {url : String} (h : isWebAddress url = true) : 'h' ∈ url.toList := by
  obtain ⟨scheme, hscheme, hprefix⟩ := (isWebAddress_iff url).1 h
  refine hprefix.subset ?_
  rcases List.mem_cons.1 hscheme with rfl | hscheme
  · decide
  · rw [List.mem_singleton.1 hscheme]
    decide

/-- One check after another. -/
theorem ite_some_eq_none {p : Prop} [Decidable p] {fault : Fault} {later : Option Fault} :
    (if p then some fault else later) = none ↔ ¬ p ∧ later = none := by
  by_cases h : p <;> simp [h]

/-- Settings have no fault exactly when they are valid. There is one check for each field of the
statement, and one for a blank address, which asks for less than the one for its scheme. -/
theorem fault?_eq_none_iff (s : Settings) : s.fault? = none ↔ s.Valid := by
  rw [fault?]
  simp only [ite_some_eq_none]
  constructor
  · rintro ⟨host, port, -, url, database, timeout, attempts, delay, standard, largest, -⟩
    exact
      { host := by simpa using host
        port
        url := (isWebAddress_iff _).1 (by simpa using url)
        database := by simpa using database
        timeout
        attempts
        delay
        standard := by simpa [Int64.lt_iff_toInt_lt] using standard
        largest := by simpa [Int64.lt_iff_toInt_lt] using largest }
  · intro h
    have hweb := (isWebAddress_iff _).2 h.url
    have htrim := trim_ne_empty (mem_of_isWebAddress hweb) (by decide)
    have hstandard : ¬ s.limits.standard < 1 := by simpa [Int64.lt_iff_toInt_lt] using h.standard
    have hlargest : ¬ s.limits.largest < s.limits.standard := by
      simpa [Int64.lt_iff_toInt_lt] using h.largest
    simp [h.host, h.port, htrim, hweb, h.database, h.timeout, h.attempts, h.delay, hstandard,
      hlargest]

/-! ### Safety nets -/

/-- Settings that the rest of the program takes as they are. -/
structure Safe (s : Settings) : Prop where
  /-- A wait makes as many probes, and pauses as long, as the settings say. -/
  attempts : s.wait.maxAttempts = s.maxAttempts
  delay : s.wait.baseDelay = .ofMillis s.baseDelayMillis
  /-- A request that names no size gets the standard one. -/
  standard : s.limits.resolve none = s.limits.standard
  /-- Every page has a row at least, and no more rows than the largest size. -/
  limits : ∀ requested, 1 ≤ (s.limits.resolve requested).toInt ∧
    (s.limits.resolve requested).toInt ≤ s.limits.largest.toInt
  /-- The client takes the address. -/
  client : ∃ c, Endpoint.Client.ofConfig s.graph = .ok c

/-- With valid settings the limits, the pauses and the client are what the settings say. The repairs
that the parts make on their own have nothing to do. -/
theorem Valid.safe {s : Settings} (h : s.Valid) : s.Safe where
  attempts := by
    show (if s.maxAttempts = 0 then 1 else s.maxAttempts) = s.maxAttempts
    rw [if_neg h.attempts]
  delay := by
    have hpos : 0 < s.baseDelayMillis.toNat := by
      have hne : s.baseDelayMillis.toNat ≠ 0 := fun h0 => h.delay (UInt64.toNat_inj.1 h0)
      omega
    show Wait.minBaseDelay.max (.ofMillis s.baseDelayMillis) = .ofMillis s.baseDelayMillis
    rw [Duration.max, if_pos]
    -- The least pause is a millisecond, and pauses of milliseconds are exact.
    rw [Wait.minBaseDelay, Duration.nanos_ofMillis, Duration.nanos_ofMillis]
    exact Nat.mul_le_mul_right _ hpos
  standard := by
    have hstandard := h.standard
    have hlargest := h.largest
    rw [← Int64.toInt_inj, Search.toInt_resolve, Option.getD_none]
    omega
  limits requested := by
    have hstandard := h.standard
    have hlargest := h.largest
    rw [Search.toInt_resolve]
    omega
  -- An address that has a scheme is not empty without its slashes.
  client := by
    have hmem := mem_of_isWebAddress ((isWebAddress_iff _).2 h.url)
    have hbase : Endpoint.withoutSlashes s.graph.url.toList ≠ [] := by
      -- An address is nothing but slashes where nothing is left of it.
      rw [Endpoint.withoutSlashes, Ne, List.reverse_eq_nil_iff, List.dropWhile_eq_nil_iff]
      intro hslashes
      have hslash := hslashes 'h' (List.mem_reverse.2 hmem)
      simp at hslash
    rw [Endpoint.Client.ofConfig, if_neg (by simpa using hbase)]
    exact ⟨_, rfl⟩

/-! ### Loading -/

/-- What loading comes to, when the sources say `s`. -/
inductive Loads (s : Settings) : Except Failure Settings → Prop where
  | valid (valid : s.Valid) (safe : s.Safe) : Loads s (.ok s)
  | invalid (invalid : ¬ s.Valid) (fault : Fault) (found : s.fault? = some fault) :
      Loads s (.error (.invalid fault))

/-- Once the files are read, loading gives the settings that the sources say when these are
valid, and fails when they are not. -/
theorem load_loaded (files : Files) (home : Option String) (i : Command.Invocation)
    {overlay profile : Option File} (hprofile : (loadProfile files home).result = .ok profile)
    (hoverlay : (loadOverlay files home i.config).result = .ok overlay) :
    ∃ s, (∀ t, Decided i overlay profile t ↔ t = s) ∧
      Loads s (load files home i.options i.config).result := by
  refine ⟨combine i.options overlay profile, ?_, ?_⟩
  · intro t
    constructor
    · exact fun ht => ht.unique (decided_combine i overlay profile)
    · rintro rfl
      exact decided_combine i overlay profile
  · have hload : (load files home i.options i.config).result =
        (resolve i.options overlay profile).mapError .invalid := by
      -- The warnings are told beside the result and do not change it.
      simp only [load, Loading.andThen, hprofile, hoverlay]
      cases resolve i.options overlay profile <;> rfl
    rw [hload, resolve, check]
    generalize combine i.options overlay profile = s
    cases hfault : s.fault? with
    | none =>
      have hvalid := s.fault?_eq_none_iff.1 hfault
      exact .valid hvalid hvalid.safe
    | some fault =>
      refine .invalid ?_ fault hfault
      intro hvalid
      rw [s.fault?_eq_none_iff.2 hvalid] at hfault
      cases hfault

/-- The profile keeps its word on the members that the overlay leaves open in the same section. The
command line comes before both of them, and what no source says has its default. -/
theorem loaded_of_merged :
    let profile : File :=
      { server := some { port := some 8000 }
        graph := some { database := some "crm", username := some "ann" }
        paging := some { largestLimit := some 50 } }
    let overlay : File := { graph := some { database := some "local" }, debug := some true }
    let files : Files := fun path =>
      if path = "/home/ann/.crmgraph/crmgraph.json" then
        .text ("\x7b\"server\":\x7b\"port\":8000\x7d,\"query\":\x7b\"max_limit\":50\x7d,"
          ++ "\"graph\":\x7b\"database\":\"crm\",\"username\":\"ann\"\x7d\x7d")
      else if path = "crmgraph.json" then
        .text "\x7b\"graph\":\x7b\"database\":\"local\"\x7d,\"debug\":true\x7d"
      else .nothing
    let i : Command.Invocation :=
      { command := none, layer := { port := some 8080 }, config := none }
    let s : Settings :=
      { port := 8080
        graph :=
          { url := "http://localhost:7474", database := "local", username := some "ann"
            timeoutSeconds := 30 }
        limits := { largest := 50 }
        debug := true }
    (loadProfile files (some "/home/ann")).result = .ok (some profile) ∧
      (loadOverlay files (some "/home/ann") i.config).result = .ok (some overlay) ∧
      (∀ t, Decided i (some overlay) (some profile) t ↔ t = s) ∧
      Loads s (load files (some "/home/ann") i.options i.config).result := by
  intro profile overlay files i s
  have hpath : profilePath "/home/ann" = "/home/ann/.crmgraph/crmgraph.json" := by decide +kernel
  have hprofile : (loadProfile files (some "/home/ann")).result = .ok (some profile) := by
    rw [loadProfile, hpath]
    rfl
  have hoverlay : (loadOverlay files (some "/home/ann") i.config).result = .ok (some overlay) := rfl
  obtain ⟨t, hdecided, hloads⟩ := load_loaded files (some "/home/ann") i hprofile hoverlay
  obtain rfl : combine i.options (some overlay) (some profile) = t :=
    (hdecided _).1 (decided_combine i (some overlay) (some profile))
  exact ⟨hprofile, hoverlay, hdecided, hloads⟩

end TenantSearch.Settings
