import Marginalia.CommandLine.Run
import Marginalia.Documenter.Basic
import Marginalia.Proofs.Language.Registry

/-!
# `Marginalia.Proofs.Config.Languages`: which languages a configuration gives

The languages of a configuration are declared twice, one after the other in
the order of their keys. The first time is when the configuration is read,
to see whether all of them are acceptable. The second time is when a
documenter is made of it. `merged_of_read` says what becomes of every
document that can be read at all, by any reader that puts the languages in
the order of their keys, and with any compiler of patterns:

* It is accepted if and only if the configuration is `Acceptable`: the
  highlighter has some time, and each declaration is `Valid`.
* If the highlighter has no time, that is the error. Otherwise it is the
  declaration that comes first among those that are not valid
  (`RefusesFirst`), with the first mistake in it (`RefusedFor`).
* An accepted configuration makes a documenter, whatever is overridden. An
  extension has the language that is declared for it, or else the one that
  is known from the start (`Merged`). If it is declared twice, with and
  without a dot in front, the key that comes last decides (`Prevails`,
  `Prevails.unique`).

The order of keys is that of their bytes. The reader of the command keeps
to it, however a document is written (`sorted_of_read?`).
-/

set_option autoImplicit false

namespace Marginalia

open CommandLine (Arguments)
open Highlight (Outside)
open Marginalia.Language (Declaration Patterns Profile Registry)

/-! ### Declarations -/

namespace Language.Declaration

/-- A declaration that makes a profile has a visible name and at least one
symbol, and all of its symbols are visible. The first of them makes a
pattern. -/
structure Valid [Patterns] (d : Declaration) : Prop where
  named : d.name.allBlank = false
  hasSymbol : d.symbols ≠ []
  visible : ∀ s ∈ d.symbols, s.allBlank = false
  compiles : ∀ s ∈ d.symbols.head?, Patterns.refusal? (Text.escape s ++ "DIVIDER") = none

instance [Patterns] (d : Declaration) : Decidable d.Valid :=
  decidable_of_iff (d.name.allBlank = false ∧ d.symbols ≠ [] ∧
      (∀ s ∈ d.symbols, s.allBlank = false) ∧
      ∀ s ∈ d.symbols.head?, Patterns.refusal? (Text.escape s ++ "DIVIDER") = none)
    ⟨fun ⟨named, hasSymbol, visible, compiles⟩ => ⟨named, hasSymbol, visible, compiles⟩,
      fun h => ⟨h.named, h.hasSymbol, h.visible, h.compiles⟩⟩

/-- The first mistake in a declaration that makes none. -/
inductive RefusedFor [Patterns] (d : Declaration) : Error → Prop
  | emptyName (unnamed : d.name.allBlank = true) : RefusedFor d .emptyName
  | noSymbols (named : d.name.allBlank = false) (none : d.symbols = []) :
      RefusedFor d (.noSymbols d.name)
  | emptySymbol (named : d.name.allBlank = false) {s : Text} (mem : s ∈ d.symbols)
      (blank : s.allBlank = true) : RefusedFor d (.emptySymbol d.name)
  | pattern (named : d.name.allBlank = false)
      (visible : ∀ s ∈ d.symbols, s.allBlank = false) {s reason : Text}
      (first : d.symbols.head? = some s)
      (refused : Patterns.refusal? (Text.escape s ++ "DIVIDER") = some reason) :
      RefusedFor d (.pattern reason)

/-- The profile is the one that is declared. -/
def Makes (d : Declaration) (profile : Profile) : Prop :=
  profile.name = d.name ∧ profile.symbols = d.symbols

variable [Patterns] {d : Declaration} {reason : Error} {profile : Profile}

/-- The profile of a valid declaration. -/
def Valid.toProfile (h : d.Valid) : Profile :=
  ⟨d.name, d.symbols, h.named, h.hasSymbol, h.visible⟩

theorem Valid.ofDeclaration_eq (h : d.Valid) : Profile.ofDeclaration d = .ok h.toProfile := by
  have hcompiles : Patterns.refusal? (Profile.markedSentinel (d.symbols.head h.hasSymbol)) = none :=
    h.compiles _ (List.head?_eq_some_head h.hasSymbol)
  rw [Profile.ofDeclaration, dif_pos h.named, dif_pos h.hasSymbol, dif_pos h.visible, hcompiles]
  rfl

theorem RefusedFor.ofDeclaration_eq (h : d.RefusedFor reason) :
    Profile.ofDeclaration d = .error reason := by
  rw [Profile.ofDeclaration]
  cases h with
  | emptyName unnamed => rw [dif_neg (by simp [unnamed])]
  | noSymbols named none => rw [dif_pos named, dif_neg (not_not_intro none)]
  | emptySymbol named mem blank =>
    have hsymbol : d.symbols ≠ [] := List.ne_nil_of_mem mem
    have hblank : ¬∀ s ∈ d.symbols, s.allBlank = false := fun hvisible => by
      rw [hvisible _ mem] at blank
      cases blank
    rw [dif_pos named, dif_pos hsymbol, dif_neg hblank]
  | @pattern named visible s text first refused =>
    have hsymbol : d.symbols ≠ [] := List.ne_nil_of_mem (List.mem_of_head? first)
    have hhead : d.symbols.head hsymbol = s :=
      Option.some.inj ((List.head?_eq_some_head hsymbol).symm.trans first)
    have hrefused : Patterns.refusal? (Profile.markedSentinel (d.symbols.head hsymbol))
        = some text := by
      rw [hhead]
      exact refused
    rw [dif_pos named, dif_pos hsymbol, dif_pos visible, hrefused]

/-- A declaration is valid, or it has a first mistake. -/
theorem valid_or_exists_refusedFor (d : Declaration) :
    d.Valid ∨ ∃ reason, d.RefusedFor reason := by
  cases hname : d.name.allBlank with
  | true => exact .inr ⟨_, .emptyName hname⟩
  | false =>
    cases hfirst : d.symbols.head? with
    | none => exact .inr ⟨_, .noSymbols hname (List.head?_eq_none_iff.mp hfirst)⟩
    | some first =>
      cases hany : d.symbols.any Text.allBlank with
      | true =>
        obtain ⟨s, hs, hblank⟩ := List.any_eq_true.mp hany
        exact .inr ⟨_, .emptySymbol hname hs hblank⟩
      | false =>
        have hvisible : ∀ s ∈ d.symbols, s.allBlank = false := fun s hs =>
          Bool.eq_false_iff.mpr (List.any_eq_false.mp hany s hs)
        cases hrefusal : Patterns.refusal? (Text.escape first ++ "DIVIDER") with
        | some text => exact .inr ⟨_, .pattern hname hvisible hfirst hrefusal⟩
        | none =>
          refine .inl ⟨hname, List.ne_nil_of_mem (List.mem_of_head? hfirst), hvisible, ?_⟩
          intro s hs
          cases hfirst.symm.trans hs
          exact hrefusal

theorem makes_of_ofDeclaration (h : Profile.ofDeclaration d = .ok profile) : d.Makes profile := by
  rcases valid_or_exists_refusedFor d with hvalid | ⟨reason, hrefused⟩
  · rw [hvalid.ofDeclaration_eq] at h
    cases h
    exact ⟨rfl, rfl⟩
  · rw [hrefused.ofDeclaration_eq] at h
    cases h

end Language.Declaration

/-! ### One declaration after the other -/

namespace Language.Registry

variable [Patterns]

/-- Registers declared languages, up to the first that is not acceptable. -/
def declareAll (registry : Registry) (declarations : List (Text × Declaration)) :
    Except Config.Error Registry :=
  declarations.foldlM
    (fun registry (extension, d) =>
      (registry.declare extension d).mapError (.invalidLanguage extension))
    registry

/-- The calls that acceptable declarations make. -/
def acceptedCalls (declarations : List (Text × Declaration)) : List (Text × Profile) :=
  declarations.filterMap fun (extension, d) =>
    (Profile.ofDeclaration d).toOption.map (extension, ·)

variable {declarations front : List (Text × Declaration)} {history : List (Text × Profile)}
  {registry : Registry} {extension : Text} {d : Declaration} {profile : Profile}
  {reason : Language.Error}

theorem declareAll_cons_of_valid (h : d.Valid) (registry : Registry) (extension : Text)
    (declarations : List (Text × Declaration)) :
    declareAll registry ((extension, d) :: declarations)
      = declareAll (registry.register extension h.toProfile) declarations := by
  rw [declareAll, List.foldlM_cons]
  simp only [declare, h.ofDeclaration_eq]
  rfl

theorem declareAll_cons_of_refusedFor (h : d.RefusedFor reason) (registry : Registry)
    (extension : Text) (declarations : List (Text × Declaration)) :
    declareAll registry ((extension, d) :: declarations)
      = .error (.invalidLanguage extension reason) := by
  rw [declareAll, List.foldlM_cons]
  simp only [declare, h.ofDeclaration_eq]
  rfl

/-- If all declarations are valid, none of them stops the others. -/
theorem declareAll_of_valid (h : ∀ declared ∈ declarations, declared.2.Valid)
    (registry : Registry) :
    registry.declareAll declarations = .ok (declarations.foldl
      (fun registry (extension, d) => (registry.declare extension d).toOption.getD registry)
      registry) := by
  induction declarations generalizing registry with
  | nil => rfl
  | cons declared declarations ih =>
    obtain ⟨extension, d⟩ := declared
    obtain ⟨hd, hrest⟩ := List.forall_mem_cons.mp h
    rw [declareAll_cons_of_valid hd, ih hrest, List.foldl_cons]
    simp only [declare, hd.ofDeclaration_eq]
    rfl

/-- So they are all registered. -/
theorem Records.declareAll (h : Records history registry)
    (hvalid : ∀ declared ∈ declarations, declared.2.Valid) :
    ∃ merged, registry.declareAll declarations = .ok merged ∧
      Records (history ++ acceptedCalls declarations) merged :=
  ⟨_, declareAll_of_valid hvalid registry, h.declare declarations⟩

/-- The first declaration with a mistake is the error. -/
theorem declareAll_of_refusedFor (hvalid : ∀ declared ∈ front, declared.2.Valid)
    (h : d.RefusedFor reason) (registry : Registry) (back : List (Text × Declaration)) :
    registry.declareAll (front ++ (extension, d) :: back)
      = .error (.invalidLanguage extension reason) := by
  induction front generalizing registry with
  | nil => exact declareAll_cons_of_refusedFor h registry extension back
  | cons declared front ih =>
    obtain ⟨hfirst, hfront⟩ := List.forall_mem_cons.mp hvalid
    rw [List.cons_append, declareAll_cons_of_valid hfirst]
    exact ih hfront _

/-- Unless all are valid, one declaration is the first with a mistake. -/
theorem valid_or_exists_first (declarations : List (Text × Declaration)) :
    (∀ declared ∈ declarations, declared.2.Valid) ∨
    ∃ front extension d reason back, declarations = front ++ (extension, d) :: back ∧
      (∀ declared ∈ front, declared.2.Valid) ∧ d.RefusedFor reason := by
  induction declarations with
  | nil => exact .inl fun declared hdeclared => absurd hdeclared List.not_mem_nil
  | cons declared declarations ih =>
    obtain ⟨extension, d⟩ := declared
    rcases d.valid_or_exists_refusedFor with hd | ⟨reason, hreason⟩
    · rcases ih with hall | ⟨front, other, d', reason, back, rfl, hfront, hreason⟩
      · exact .inl (List.forall_mem_cons.mpr ⟨hd, hall⟩)
      · exact .inr ⟨(extension, d) :: front, other, d', reason, back, rfl,
          List.forall_mem_cons.mpr ⟨hd, hfront⟩, hreason⟩
    · exact .inr ⟨[], extension, d, reason, declarations, rfl,
        fun declared hdeclared => absurd hdeclared List.not_mem_nil, hreason⟩

theorem mem_acceptedCalls_iff :
    (extension, profile) ∈ acceptedCalls declarations ↔
      ∃ d, (extension, d) ∈ declarations ∧ Profile.ofDeclaration d = .ok profile := by
  rw [acceptedCalls, List.mem_filterMap]
  constructor
  · rintro ⟨⟨key, d⟩, hmem, hcall⟩
    obtain ⟨found, hfound, heq⟩ := Option.map_eq_some_iff.mp hcall
    cases heq
    refine ⟨d, hmem, ?_⟩
    cases hd : Profile.ofDeclaration d with
    | error reason =>
      rw [hd] at hfound
      cases hfound
    | ok made =>
      rw [hd] at hfound
      cases hfound
      rfl
  · rintro ⟨d, hmem, hd⟩
    refine ⟨(extension, d), hmem, ?_⟩
    simp only [hd]
    rfl

/-- Calls come in the order of their declarations. -/
theorem pairwise_acceptedCalls (h : declarations.Pairwise fun a b => a.1 < b.1) :
    (acceptedCalls declarations).Pairwise fun a b => a.1 < b.1 := by
  refine h.filterMap _ fun a a' hlt call hcall call' hcall' => ?_
  obtain ⟨-, -, rfl⟩ := Option.map_eq_some_iff.mp hcall
  obtain ⟨-, -, rfl⟩ := Option.map_eq_some_iff.mp hcall'
  exact hlt

end Language.Registry

namespace Config

/-! ### What is accepted -/

/-- A configuration that is accepted. -/
structure Acceptable [Patterns] (config : Config) : Prop where
  timed : config.highlighter.seconds ≠ 0
  valid : ∀ extension d, config.languages.get? extension = some d → d.Valid

/-- The language that is refused, and why:

- `refused`: its declaration has this mistake first;
- `least`: every other declaration that is not valid has a key that comes
  later in the order of bytes. -/
structure RefusesFirst [Patterns] (config : Config) (extension : Text) (reason : Language.Error) :
    Prop where
  refused : ∃ d, config.languages.get? extension = some d ∧ d.RefusedFor reason
  least : ∀ other d, config.languages.get? other = some d → ¬d.Valid → other ≠ extension →
    Utf8.encode extension < Utf8.encode other

/-- The declaration that decides about the extension `e`:

- `spelled`, `declared`: its key is `e`, with a dot in front or without;
- `greatest`: if the other spelling of `e` is a key too, that one comes
  earlier in the order of bytes. -/
structure Prevails (config : Config) (e key : Text) (d : Declaration) : Prop where
  spelled : key = e ∨ key = '.' :: e
  declared : config.languages.get? key = some d
  greatest : ∀ other, other = e ∨ other = '.' :: e → other ≠ key →
    (config.languages.get? other).isSome = true → Utf8.encode other < Utf8.encode key

/-- The language of the extension `e` in a registry. It is the one that the
configuration declares or, if it declares none, the one that is known from
the start. -/
inductive Merged [Patterns] (config : Config) (registry : Registry) (e : Text) : Prop
  | declared {key : Text} {d : Declaration} {profile : Profile}
      (prevails : config.Prevails e key d) (makes : d.Makes profile)
      (found : registry.get? e = some profile)
  | known (plain : config.languages.get? e = none)
      (dotted : config.languages.get? ('.' :: e) = none)
      (found : registry.get? e = Registry.builtin.get? e)

/-- The calls that the declared languages make. -/
def calls [Patterns] (config : Config) : List (Text × Profile) :=
  Registry.acceptedCalls config.languages.entries

variable {config : Config} {text : Text} {merged registry : Registry} {e key : Text}
  {d : Declaration} {profile : Profile}

theorem acceptable_iff [Patterns] (hsorted : config.languages.Sorted) :
    config.Acceptable ↔ config.highlighter.seconds ≠ 0 ∧
      ∀ declared ∈ config.languages.entries, declared.2.Valid := by
  constructor
  · intro h
    exact ⟨h.timed, fun declared hdeclared =>
      h.valid declared.1 declared.2 (hsorted.get?_eq_some_iff.mpr hdeclared)⟩
  · rintro ⟨htimed, hvalid⟩
    exact ⟨htimed, fun extension d hd =>
      hvalid (extension, d) (hsorted.get?_eq_some_iff.mp hd)⟩

/-- The languages of an acceptable configuration are all registered over
those that are known from the start. -/
theorem Acceptable.registry_eq [Patterns] (h : config.Acceptable)
    (hsorted : config.languages.Sorted) :
    ∃ merged, config.registry = .ok merged ∧
      Registry.Records (Registry.builtinCalls ++ config.calls) merged :=
  Registry.Built.builtin.records.declareAll ((acceptable_iff hsorted).mp h).2

theorem validate_of_seconds [Patterns] (h : config.highlighter.seconds = 0) :
    config.validate = .error .zeroTimeout :=
  if_pos h

/-- If there is time but the configuration is not acceptable, a language is
refused. -/
theorem exists_refusesFirst [Patterns] (hsorted : config.languages.Sorted)
    (htimed : config.highlighter.seconds ≠ 0) (h : ¬config.Acceptable) :
    ∃ extension reason, config.RefusesFirst extension reason ∧
      config.validate = .error (.invalidLanguage extension reason) := by
  rcases Registry.valid_or_exists_first config.languages.entries with
    hvalid | ⟨front, extension, d, reason, back, hentries, hfront, hreason⟩
  · exact absurd ((acceptable_iff hsorted).mpr ⟨htimed, hvalid⟩) h
  · have hget : config.languages.get? extension = some d :=
      hsorted.get?_eq_some_iff.mpr (hentries ▸ List.mem_append_right _ List.mem_cons_self)
    have herror : config.registry = .error (.invalidLanguage extension reason) := by
      rw [registry, hentries]
      exact Registry.declareAll_of_refusedFor hfront hreason _ back
    refine ⟨extension, reason, ⟨⟨d, hget, hreason⟩, fun other d' hd' hnot hne => ?_⟩, ?_⟩
    · have hmem := hsorted.get?_eq_some_iff.mp hd'
      have hpairs := List.pairwise_map.mp hsorted
      rw [hentries] at hmem hpairs
      -- What is not valid is not in front of the first such declaration.
      rcases Table.front_or_back_of_mem hpairs hmem hne with ⟨hearlier, -⟩ | ⟨-, hlt⟩
      · exact absurd (hfront _ hearlier) hnot
      · exact Utf8.encode_lt_encode hlt
    · rw [validate, if_neg htimed, herror]
      rfl

/-- A configuration is accepted if and only if it is acceptable. -/
theorem validate_eq_ok_iff [Patterns] (hsorted : config.languages.Sorted) :
    config.validate = .ok config ↔ config.Acceptable := by
  constructor
  · intro hok
    refine Classical.byContradiction fun hnot => ?_
    by_cases hseconds : config.highlighter.seconds = 0
    · rw [validate_of_seconds hseconds] at hok
      cases hok
    · obtain ⟨extension, reason, -, herror⟩ := exists_refusesFirst hsorted hseconds hnot
      rw [herror] at hok
      cases hok
  · intro h
    obtain ⟨merged, hmerged, -⟩ := h.registry_eq hsorted
    rw [validate, if_neg h.timed, hmerged]
    rfl

/-- Whatever is overridden, a documenter knows the languages of its
configuration. -/
theorem exists_ofConfig_override [Patterns] (h : config.registry = .ok merged)
    (arguments : Arguments) :
    ∃ documenter, Documenter.ofConfig (arguments.override config) = .ok documenter ∧
      documenter.registry = merged :=
  ⟨_, congrArg _ h, rfl⟩

/-- Whatever is overridden, the time of the highlighter is that of the
configuration. -/
theorem canSetUp_override {outside : Outside}
    (h : outside.opens config.highlighter.limit = true) (arguments : Arguments) :
    Documenter.canSetUp outside (arguments.override config).highlighter = true := by
  rw [Documenter.canSetUp, Bool.or_eq_true]
  exact .inr h

/-! ### What languages there are -/

/-- Only one declaration decides about an extension. -/
theorem Prevails.unique {key' : Text} {d' : Declaration} (h : config.Prevails e key d)
    (h' : config.Prevails e key' d') : d = d' := by
  by_cases hkey : key' = key
  · have hd := h'.declared
    rw [hkey, h.declared] at hd
    exact Option.some.inj hd
  · have hlt := h.greatest key' h'.spelled hkey (by rw [h'.declared]; rfl)
    have hgt := h'.greatest key h.spelled (Ne.symm hkey) (by rw [h.declared]; rfl)
    exact absurd (List.lt_trans hlt hgt) (List.lt_irrefl _)

/-- So its language is the one that is found. -/
theorem Merged.exists_makes [Patterns] (h : config.Merged registry e)
    (hprevails : config.Prevails e key d) :
    ∃ profile, registry.get? e = some profile ∧ d.Makes profile := by
  cases h with
  | declared hother hmakes hfound => exact ⟨_, hfound, hprevails.unique hother ▸ hmakes⟩
  | known hplain hdotted hfound =>
    have hdeclared := hprevails.declared
    rcases hprevails.spelled with rfl | rfl
    · rw [hplain] at hdeclared
      cases hdeclared
    · rw [hdotted] at hdeclared
      cases hdeclared

/-- The calls for an extension are those with one of its spellings. -/
theorem isFor_iff_spelled (he : e.head? ≠ some '.') :
    Registry.IsFor key e ↔ key = e ∨ key = '.' :: e := by
  rw [Registry.IsFor, and_iff_left he]
  exact or_comm

/-- Every declared language makes a call. -/
theorem Acceptable.exists_call [Patterns] (h : config.Acceptable)
    (hsorted : config.languages.Sorted)
    (hkey : (config.languages.get? key).isSome = true) :
    ∃ profile, (key, profile) ∈ config.calls := by
  obtain ⟨d, hd⟩ := Option.isSome_iff_exists.mp hkey
  exact ⟨_, Registry.mem_acceptedCalls_iff.mpr
    ⟨d, hsorted.get?_eq_some_iff.mp hd, (h.valid key d hd).ofDeclaration_eq⟩⟩

/-- The last call for an extension has the declaration that decides, since
calls come in the order of their keys. -/
theorem Acceptable.exists_prevails [Patterns] (h : config.Acceptable)
    (hsorted : config.languages.Sorted)
    (he : e.head? ≠ some '.') (hlatest : Registry.latest? config.calls e = some profile) :
    ∃ key d, config.Prevails e key d ∧ d.Makes profile := by
  obtain ⟨front, key, back, hsplit, hfor, hback⟩ := Registry.exists_split_of_latest? hlatest
  have hmem : (key, profile) ∈ config.calls :=
    hsplit ▸ List.mem_append_right _ List.mem_cons_self
  obtain ⟨d, hd, hprofile⟩ := Registry.mem_acceptedCalls_iff.mp hmem
  refine ⟨key, d, ⟨(isFor_iff_spelled he).mp hfor, hsorted.get?_eq_some_iff.mpr hd, ?_⟩,
    Declaration.makes_of_ofDeclaration hprofile⟩
  intro other hother hne hsome
  obtain ⟨profile', hcall⟩ := h.exists_call hsorted hsome
  have hpairs : config.calls.Pairwise fun a b => a.1 < b.1 :=
    Registry.pairwise_acceptedCalls (List.pairwise_map.mp hsorted)
  rw [hsplit] at hcall hpairs
  -- The other spelling has a call too, but not behind the last one.
  rcases Table.front_or_back_of_mem hpairs hcall hne with ⟨-, hlt⟩ | ⟨hlater, -⟩
  · exact Utf8.encode_lt_encode hlt
  · exact absurd ((isFor_iff_spelled he).mpr hother) (hback _ hlater)

/-- Without a call for an extension it is not declared. -/
theorem Acceptable.get?_eq_none [Patterns] (h : config.Acceptable)
    (hsorted : config.languages.Sorted)
    (hfor : Registry.IsFor key e) (hlatest : Registry.latest? config.calls e = none) :
    config.languages.get? key = none := by
  refine Option.not_isSome_iff_eq_none.mp fun hsome => ?_
  obtain ⟨profile, hcall⟩ := h.exists_call hsorted hsome
  exact Registry.latest?_ne_none hcall hfor hlatest

/-- The last call for an extension decides, first among those of the
configuration and then among the others. -/
theorem Acceptable.merged_of_records [Patterns] (h : config.Acceptable)
    (hsorted : config.languages.Sorted)
    (hrecords : Registry.Records (Registry.builtinCalls ++ config.calls) merged)
    (he : e.head? ≠ some '.') : config.Merged merged e := by
  have hself : Registry.IsFor e e := .inr ⟨rfl, he⟩
  have hfound := hrecords.get?_of_isFor hself
  rw [Registry.latest?_append] at hfound
  cases hlatest : Registry.latest? config.calls e with
  | none =>
    rw [hlatest, Option.none_or, ← Registry.Built.builtin.records.get?_of_isFor hself] at hfound
    exact .known (h.get?_eq_none hsorted hself hlatest)
      (h.get?_eq_none hsorted (.inl rfl) hlatest) hfound
  | some profile =>
    rw [hlatest, Option.some_or] at hfound
    obtain ⟨key, d, hprevails, hmakes⟩ := h.exists_prevails hsorted he hlatest
    exact .declared hprevails hmakes hfound

/-! ### Reading a document -/

deriving instance DecidableEq for Config

theorem sorted_of_setEntry {entry : Text × Toml.Value} {next : Config}
    (hsorted : config.languages.Sorted) (h : setEntry config entry = some next) :
    next.languages.Sorted := by
  obtain ⟨key, value⟩ := entry
  simp only [setEntry] at h
  -- The output and the highlighter leave the languages as they are.
  split at h
  · obtain ⟨output, -, rfl⟩ := Option.map_eq_some_iff.mp h
    exact hsorted
  · split at h
    · obtain ⟨settings, -, rfl⟩ := Option.map_eq_some_iff.mp h
      exact hsorted
    · split at h
      · obtain ⟨languages, hlanguages, rfl⟩ := Option.map_eq_some_iff.mp h
        cases value with
        | table entries =>
          obtain ⟨pairs, -, rfl⟩ := Option.map_eq_some_iff.mp hlanguages
          exact Table.sorted_ofList pairs
        | _ => cases hlanguages
      · cases h

theorem sorted_of_foldlM {entries : List (Text × Toml.Value)} {start : Config}
    (hsorted : start.languages.Sorted) (h : entries.foldlM setEntry start = some config) :
    config.languages.Sorted := by
  induction entries generalizing start with
  | nil =>
    cases h
    exact hsorted
  | cons entry entries ih =>
    rw [List.foldlM_cons] at h
    obtain ⟨next, hnext, hrest⟩ := Option.bind_eq_some_iff.mp h
    exact ih (sorted_of_setEntry hsorted hnext) hrest

/-- The languages that are read are in the order of their keys. -/
theorem sorted_of_read? (h : read? text = some config) : config.languages.Sorted := by
  obtain ⟨entries, -, hentries⟩ := Option.bind_eq_some_iff.mp h
  exact sorted_of_foldlM Table.sorted_empty hentries

/-- **A configuration that is accepted does not fail later.** Take any
reader of documents that has the languages in the order of their keys, and
let it read a configuration. This is accepted if and only if it is
acceptable. If the highlighter has no time, that is the error, and
otherwise it is the first language that is refused. An accepted
configuration makes a documenter with whatever settings are overridden, as
long as the system lets requests be made. Its languages are those that are
known from the start, with the declared ones over them. -/
theorem merged_of_read [Patterns] (read : Text → Option Config) (text : Text)
    (h : read text = some config) (hsorted : config.languages.Sorted) :
    (parseWith read text = .ok config ↔ config.Acceptable) ∧
    (config.highlighter.seconds = 0 → parseWith read text = .error .zeroTimeout) ∧
    (config.highlighter.seconds ≠ 0 → ¬config.Acceptable →
      ∃ extension reason, config.RefusesFirst extension reason ∧
        parseWith read text = .error (.invalidLanguage extension reason)) ∧
    (parseWith read text = .ok config → ∀ arguments : Arguments, ∃ documenter,
      Documenter.ofConfig (arguments.override config) = .ok documenter ∧
      (∀ outside : Outside, outside.opens config.highlighter.limit = true →
        Documenter.canSetUp outside (arguments.override config).highlighter = true) ∧
      ∀ e : Text, e.head? ≠ some '.' → config.Merged documenter.registry e) := by
  have hparse : parseWith read text = config.validate := by
    rw [parseWith, h]
  rw [hparse]
  refine ⟨validate_eq_ok_iff hsorted, validate_of_seconds, exists_refusesFirst hsorted, ?_⟩
  intro hok arguments
  have hacceptable := (validate_eq_ok_iff hsorted).mp hok
  obtain ⟨merged, hmerged, hrecords⟩ := hacceptable.registry_eq hsorted
  obtain ⟨documenter, hdocumenter, rfl⟩ := exists_ofConfig_override hmerged arguments
  refine ⟨documenter, hdocumenter, fun outside hopens => canSetUp_override hopens arguments, ?_⟩
  exact fun e he => hacceptable.merged_of_records hsorted hrecords he

/-- A document that declares two extensions, each in both spellings. -/
def spellings : Text :=
  "[languages.py]
name = 'tex'
symbols = ['%']
[languages.'.py']
name = 'lisp'
symbols = [';']
[languages.-x]
name = 'tex'
symbols = ['%']
[languages.'.-x']
name = 'lisp'
symbols = [';']
"

/-- What is read in it. -/
def spelled : Config :=
  { standard with
    languages := ⟨[("-x", ⟨"tex", ["%"]⟩), (".-x", ⟨"lisp", [";"]⟩),
      (".py", ⟨"lisp", [";"]⟩), ("py", ⟨"tex", ["%"]⟩)]⟩ }

theorem merged_of_read_spellings :
    read? spellings = some spelled ∧ spelled.languages.Sorted ∧
    parse spellings = .ok spelled ∧
    ∀ arguments : Arguments, ∃ documenter plain dotted,
      Documenter.ofConfig (arguments.override spelled) = .ok documenter ∧
      documenter.registry.get? "py" = some plain ∧ plain.name = "tex" ∧
      documenter.registry.get? "-x" = some dotted ∧ dotted.name = "lisp" := by
  have hread : read? spellings = some spelled := by decide +kernel
  have hsorted : spelled.languages.Sorted := sorted_of_read? hread
  obtain ⟨haccepted, -, -, hmerged⟩ := merged_of_read read? spellings hread hsorted
  have hok : parse spellings = .ok spelled :=
    haccepted.mpr ((acceptable_iff hsorted).mpr ⟨by decide, by decide +kernel⟩)
  have hplain : spelled.Prevails "py" "py" ⟨"tex", ["%"]⟩ := by
    refine ⟨.inl rfl, by decide +kernel, ?_⟩
    rintro other (rfl | rfl) hne -
    · exact absurd rfl hne
    · decide +kernel
  have hdotted : spelled.Prevails "-x" ".-x" ⟨"lisp", [";"]⟩ := by
    refine ⟨.inr rfl, by decide +kernel, ?_⟩
    rintro other (rfl | rfl) hne -
    · decide +kernel
    · exact absurd rfl hne
  refine ⟨hread, hsorted, hok, fun arguments => ?_⟩
  obtain ⟨documenter, hdocumenter, -, hfound⟩ := hmerged hok arguments
  obtain ⟨plain, hpy, htex, -⟩ := (hfound "py" (by decide)).exists_makes hplain
  obtain ⟨dotted, hx, hlisp, -⟩ := (hfound "-x" (by decide)).exists_makes hdotted
  exact ⟨documenter, plain, dotted, hdocumenter, hpy, htex, hx, hlisp⟩

/-- The standard settings are those of an empty document. -/
example : parse [] = .ok standard := rfl

end Config

end Marginalia
