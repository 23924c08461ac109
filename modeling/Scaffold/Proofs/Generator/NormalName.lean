import Scaffold.Proofs.Generator.Run
import Scaffold.Proofs.Text.Pascal

/-!
# Normal form of names

The name of a request is in Pascal case and ends in the suffix of its generator. It is its own normal
form: who gives it, with separators around it or without, asks for the same request once more.
-/

set_option autoImplicit false

namespace Scaffold

theorem Workspace.Unwritten.look_eq {old new : Workspace} (unwritten : old.Unwritten new)
    (path : Path) : new.disk.look path = old.disk.look path := by
  rw [unwritten]
  rfl

namespace Generator

variable {root : Path} {spec : Spec} {invocation again : Invocation} {workspace next : Workspace}
  {request : Request}

/-! ## The name of a request -/

/-- The name of a request is one word that begins in upper case. -/
theorem isPascal_requestName (known : spec ∈ catalogue) (named : baseName invocation ≠ "") :
    Text.IsPascal (requestName spec invocation).toList := by
  have noSeparator : ∀ spec ∈ catalogue, spec.suffix.toList.any Text.isSeparator = false := by
    decide +kernel
  have joined : ∀ character ∈ spec.suffix.toList, Text.isSeparator character = false :=
    fun character member =>
      Bool.eq_false_iff.2 (List.any_eq_false.1 (noSeparator spec known) character member)
  have isPascal : Text.IsPascal (baseName invocation).toList := Text.isPascal_pascalCase _
  unfold requestName Text.withSuffix
  split
  · exact isPascal
  · rw [String.toList_append]
    exact isPascal.append (String.toList_eq_nil_iff.not.2 named) joined

theorem isSuffix_requestName (spec : Spec) (invocation : Invocation) :
    spec.suffix.toList <:+ (requestName spec invocation).toList := by
  obtain ⟨start, ended⟩ := exists_toList_withSuffix (baseName invocation) spec.suffix
  exact ⟨start, ended.symm⟩

/-- A name that was given a suffix has its normal form left without it. -/
theorem stripSuffix_requestName (named : baseName invocation ≠ "")
    (lacks : ¬spec.suffix.toList <:+ (baseName invocation).toList) :
    Text.stripSuffix (requestName spec invocation) spec.suffix = baseName invocation := by
  have left := Text.leftWithout_stripSuffix (requestName spec invocation) spec.suffix
  have added : requestName spec invocation = baseName invocation ++ spec.suffix :=
    if_neg fun has => lacks (List.isSuffixOf_iff_suffix.1 has)
  rw [added, String.toList_append] at left
  rw [added]
  exact String.toList_inj.1 (left.eq_stem (String.toList_eq_nil_iff.not.2 named))

/-! ## Giving the name again -/

/-- Whether an invocation gives a name, with separators around it or without. -/
def GivesName (again : Invocation) (name : String) : Prop :=
  ∃ before after : String, Text.IsSpacing before.toList ∧ Text.IsSpacing after.toList ∧
    again.positional.head? = some (before ++ name ++ after)

namespace GivesName

theorem baseName_eq (known : spec ∈ catalogue) (named : baseName invocation ≠ "")
    (gives : GivesName again (requestName spec invocation)) :
    baseName again = requestName spec invocation := by
  obtain ⟨before, after, isSpacingBefore, isSpacingAfter, head_eq⟩ := gives
  rw [baseName, List.headD_eq_head?_getD, head_eq, Option.getD_some, Text.pascalCase,
    String.toList_append, String.toList_append,
    (isPascal_requestName known named).pascal_spaced isSpacingBefore isSpacingAfter,
    String.ofList_toList]

theorem requestName_eq (known : spec ∈ catalogue) (named : baseName invocation ≠ "")
    (gives : GivesName again (requestName spec invocation)) :
    requestName spec again = requestName spec invocation := by
  rw [requestName, gives.baseName_eq known named]
  exact if_pos (List.isSuffixOf_iff_suffix.2 (isSuffix_requestName spec invocation))

/-- Nothing else is done to prepare a request for its own name. -/
theorem prepare_eq (root : Path) (known : spec ∈ catalogue) (named : baseName invocation ≠ "")
    (gives : GivesName again (requestName spec invocation))
    (options_eq : again.options = invocation.options) :
    prepare root spec again = prepare root spec invocation := by
  have namedAgain : baseName again ≠ "" := by
    rw [gives.baseName_eq known named]
    exact requestName_ne_empty named
  have className_eq : className spec again = className spec invocation := by
    calc
      className spec again = pure (requestName spec again) := if_neg namedAgain
      _ = pure (requestName spec invocation) := by rw [gives.requestName_eq known named]
      _ = className spec invocation := (if_neg named).symm
  simp only [prepare, className_eq, options_eq, Invocation.isDryRun]

end GivesName

/-- Whatever request was prepared is prepared once more in the workspace that this left. -/
theorem exec_prepare_again (prepared : exec (prepare root spec invocation) workspace =
    (.ok request, next)) : exec (prepare root spec invocation) next = (.ok request, next) := by
  obtain ⟨valid, settings, loaded, request_eq⟩ := exec_prepare_eq_ok_iff.1 prepared
  have unwritten := unwritten_of_exec_load loaded
  refine exec_prepare_eq_ok_iff.2 ⟨⟨valid.named, valid.given, fun needs => ?_⟩, settings,
    Settings.exec_load_of_kept (Settings.keeps_of_exec_load loaded), request_eq⟩
  exact (unwritten.look_eq _).trans (valid.found needs)

/-! ## Names and requests -/

/-- Whether the name of a request that was prepared is its own normal form, and the one of what was
given with a suffix added to it unless that was there. -/
structure IsNormal (root : Path) (spec : Spec) (invocation : Invocation) (request : Request)
    (next : Workspace) : Prop where
  named : ∀ again, GivesName again request.name → ∀ root workspace requestAgain final,
    exec (prepare root spec again) workspace = (.ok requestAgain, final) →
      requestAgain.name = request.name
  again : ∀ again : Invocation, GivesName again request.name →
    again.options = invocation.options →
      prepare root spec again = prepare root spec invocation ∧
        exec (prepare root spec again) next = (.ok request, next)
  suffixed : spec.suffix.toList <:+ request.name.toList
  stripped : ¬spec.suffix.toList <:+ (baseName invocation).toList →
    Text.stripSuffix request.name spec.suffix = baseName invocation

theorem isNormal_of_exec_prepare (known : spec ∈ catalogue)
    (prepared : exec (prepare root spec invocation) workspace = (.ok request, next)) :
    IsNormal root spec invocation request next := by
  have preparedAgain := exec_prepare_again prepared
  obtain ⟨valid, settings, -, rfl⟩ := exec_prepare_eq_ok_iff.1 prepared
  refine ⟨?_, ?_, isSuffix_requestName spec invocation, stripSuffix_requestName valid.named⟩
  · intro again gives root workspace requestAgain final ended
    obtain ⟨-, settingsAgain, -, rfl⟩ := exec_prepare_eq_ok_iff.1 ended
    exact gives.requestName_eq known valid.named
  · intro again gives options_eq
    have prepare_eq := gives.prepare_eq root known valid.named options_eq
    exact ⟨prepare_eq, prepare_eq ▸ preparedAgain⟩

/-- Pascal case joins texts with separators between them one by one, gives one word without separators
that begins in upper case, leaves nothing just of separators, and leaves alone what it gave. So the name
of every request that was prepared is its own normal form. -/
theorem names_have_normal_form :
    (∀ front spacing back : String, spacing ≠ "" → Text.IsSpacing spacing.toList →
        Text.pascalCase (front ++ spacing ++ back) =
          Text.pascalCase front ++ Text.pascalCase back) ∧
      (∀ text, Text.IsPascal (Text.pascalCase text).toList ∧
        (Text.pascalCase text = "" ↔ Text.IsSpacing text.toList) ∧
        Text.pascalCase (Text.pascalCase text) = Text.pascalCase text) ∧
      ∀ spec ∈ catalogue, ∀ root invocation workspace request next,
        exec (prepare root spec invocation) workspace = (.ok request, next) →
          IsNormal root spec invocation request next := by
  refine ⟨?_, ?_, ?_⟩
  · intro front spacing back filled isSpacing
    exact Text.pascalCase_append_spacing_append filled isSpacing front back
  · intro text
    exact ⟨Text.isPascal_pascalCase text, Text.pascalCase_eq_empty_iff,
      Text.pascalCase_pascalCase text⟩
  · intro spec known root invocation workspace request next prepared
    exact isNormal_of_exec_prepare known prepared

/-- A controller is asked for by the name of its class, with underscores before it and a hyphen and a
blank after it. -/
def addUserAgain : Invocation :=
  ⟨["__UserController- "], addUser.options⟩

/-- The upper case of a first letter may be of two letters; these stay. -/
theorem names_have_normal_form_addUser :
    Text.IsSpacing "-_ ".toList ∧
      Text.pascalCase ("ßa" ++ "-_ " ++ "über") = "SSa" ++ "Über" ∧
      Text.pascalCase (Text.pascalCase "ßa") = "SSa" ∧
      controllerSpec ∈ catalogue ∧
      ∃ request next,
        exec (prepare ⟨.relative, []⟩ controllerSpec addUser) shopWorkspace = (.ok request, next) ∧
        request.name = "UserController" ∧ GivesName addUserAgain request.name ∧
        exec (prepare ⟨.relative, []⟩ controllerSpec addUserAgain) next = (.ok request, next) ∧
        Text.stripSuffix request.name controllerSpec.suffix = baseName addUser := by
  obtain ⟨joins, normal, names⟩ := names_have_normal_form
  have isSpacing : Text.IsSpacing "-_ ".toList := by decide +kernel
  have sharp : Text.pascalCase "ßa" = "SSa" := by decide +kernel
  have joined : Text.pascalCase ("ßa" ++ "-_ " ++ "über") = "SSa" ++ "Über" := by
    rw [joins "ßa" "-_ " "über" (by decide) isSpacing, sharp]
    exact congrArg _ (by decide +kernel)
  have accepted :
      (exec (prepare ⟨.relative, []⟩ controllerSpec addUser) shopWorkspace).1.isOk = true := by
    decide +kernel
  obtain ⟨request, next, prepared⟩ := exists_exec_eq_ok accepted
  have isNormal := names controllerSpec controllerSpec_mem _ _ _ _ _ prepared
  have named : request.name = "UserController" := by
    obtain ⟨-, settings, -, rfl⟩ := exec_prepare_eq_ok_iff.1 prepared
    show requestName controllerSpec addUser = "UserController"
    decide +kernel
  have gives : GivesName addUserAgain request.name := by
    rw [named]
    exact ⟨"__", "- ", by decide +kernel, by decide +kernel, by decide⟩
  exact ⟨isSpacing, joined, (normal "ßa").2.2.trans sharp, controllerSpec_mem, request, next,
    prepared, named, gives, (isNormal.again addUserAgain gives rfl).2,
    isNormal.stripped (by decide +kernel)⟩

end Generator

end Scaffold
