import Scaffold.Proofs.Template.Line
import Scaffold.Template.Library

/-!
# What a file declares

The namespace of a file and the name of the class or trait that it declares are read off its text. Each
template has a heading, which says what is read off the texts that come of it.
-/

set_option autoImplicit false

namespace Scaffold

/-- What stands before an ending in a text that ends in it. -/
def Text.before? (ending text : List Char) : Option (List Char) :=
  (after? ending.reverse text.reverse).map List.reverse

theorem Text.before?_eq_some_iff {ending text front : List Char} :
    before? ending text = some front ↔ text = front ++ ending := by
  simp only [before?, Option.map_eq_some_iff, after?_eq_some_iff]
  constructor
  · rintro ⟨turned, split, rfl⟩
    rw [← List.reverse_reverse text, split, List.reverse_append, List.reverse_reverse]
  · rintro rfl
    exact ⟨front.reverse, List.reverse_append, List.reverse_reverse front⟩

namespace Template

open Text

/-! ## Reading a file -/

/-- How a namespace is declared. -/
def spaceOpenings : List (List Char) :=
  ["namespace ".toList]

/-- How a class or a trait is declared. -/
def declarationOpenings : List (List Char) :=
  ["class ".toList, "trait ".toList]

def listenerOpenings : List (List Char) :=
  ["#[Listener(".toList]

def handlerOpenings : List (List Char) :=
  ["    public function handle(".toList]

/-- The namespace that a file declares. -/
def namespaceOf? (content : String) : Option (List Char) :=
  (lineAfter? spaceOpenings content.toList).map (·.takeWhile (· ≠ ';'))

/-- The name of the class or trait that a file declares. -/
def declaredName? (content : String) : Option (List Char) :=
  (lineAfter? declarationOpenings content.toList).map (·.takeWhile (!isBlank ·))

/-- The event for which a file declares a listener. -/
def listenedEvent? (content : String) : Option (List Char) :=
  (lineAfter? listenerOpenings content.toList).bind (before? "::class)]".toList)

/-- The event that the handler of a listener takes. -/
def handledEvent? (content : String) : Option (List Char) :=
  (lineAfter? handlerOpenings content.toList).bind (before? " $event): void".toList)

/-! ## Headings -/

/-- What the files of a template declare: a namespace, and a class or trait that is named after the
request, with a suffix and with what follows in its line. A reader must know something of the values
and imports above. -/
structure Heading where
  template : Template
  values : List String
  imports : List String
  space : List Mark
  suffix : String
  following : String

namespace Heading

/-- Where the template brings a reader who looks for a line. -/
def scan (heading : Heading) (openings : List (List Char)) : Option Reader :=
  scanPieces openings heading.values heading.imports (.opening openings) heading.template

/-- Whether a template writes what its heading says. -/
structure IsWritten (heading : Heading) : Prop where
  space : heading.scan spaceOpenings = some (.done (heading.space ++ plainOutline ";"))
  declared : heading.scan declarationOpenings = some (.done
    ([.value "name"] ++ plainOutline heading.suffix ++ plainOutline heading.following))
  suffixed : heading.suffix.toList.all (!isBlank ·) = true
  parted : heading.following.toList.takeWhile (!isBlank ·) = []

instance (heading : Heading) : Decidable heading.IsWritten :=
  decidable_of_iff (_ ∧ _ ∧ _ ∧ _)
    ⟨fun ⟨space, declared, suffixed, parted⟩ => ⟨space, declared, suffixed, parted⟩,
      fun ⟨space, declared, suffixed, parted⟩ => ⟨space, declared, suffixed, parted⟩⟩

end Heading

def commandHeading : Heading :=
  ⟨command, ["namespace", "name"], [], [.value "namespace"], "", " extends Request"⟩

def queryHeading : Heading :=
  ⟨query, ["namespace", "name"], [], [.value "namespace"], "", " extends Request"⟩

def handlerHeading : Heading :=
  ⟨handler, ["namespace", "name", "request_kind"], ["handler_imports"], [.value "namespace"],
    "Handler", " extends RequestHandler"⟩

def controllerHeading : Heading :=
  ⟨controller, ["module", "name", "short_name", "area_name"], ["imports"],
    plainOutline "Presentation\\" ++ [.value "module"] ++ plainOutline "\\Controllers", "",
    " extends Controller"⟩

def jobHeading : Heading :=
  ⟨job, ["name", "short_name"], [], plainOutline "Core\\Jobs", "", " extends Job"⟩

def eventHeading : Heading :=
  ⟨event, ["module", "name", "short_name"], [],
    plainOutline "Core\\Application\\Events\\" ++ [.value "module"], "", ""⟩

def listenerHeading : Heading :=
  ⟨listener, ["name", "event"], ["imports"], plainOutline "Core\\Application\\Listeners", "", ""⟩

def serviceHeading : Heading :=
  ⟨service, ["folder", "name", "short_name"], [],
    plainOutline "Infrastructure\\" ++ [.value "folder"], "", ""⟩

def middlewareHeading : Heading :=
  ⟨middleware, ["folder", "name", "short_name"], [],
    plainOutline "Infrastructure\\" ++ [.value "folder"], "", " implements MiddlewareInterface"⟩

def entityHeading : Heading :=
  ⟨entity, ["schema", "name", "table_name"], [],
    plainOutline "Core\\Domain\\" ++ [.value "schema"], "", ""⟩

def seederHeading : Heading :=
  ⟨seeder, ["name"], [], plainOutline "Core\\Database\\Seeders", "", " extends Seeder"⟩

def traitHeading : Heading :=
  ⟨trait, ["name", "domain", "em_var", "db_class"], [], plainOutline "Core\\Application\\Traits", "",
    ""⟩

def headings : List Heading :=
  [commandHeading, controllerHeading, entityHeading, eventHeading, handlerHeading, jobHeading,
    listenerHeading, middlewareHeading, queryHeading, seederHeading, serviceHeading, traitHeading]

theorem isWritten_of_mem_headings : ∀ heading ∈ headings, heading.IsWritten := by
  decide +kernel

theorem scan_listenerHeading :
    listenerHeading.scan listenerOpenings =
        some (.done ([.value "event"] ++ plainOutline "::class)]")) ∧
      listenerHeading.scan handlerOpenings =
        some (.done ([.value "event"] ++ plainOutline " $event): void")) := by
  decide +kernel

/-! ## Reading the files of a template -/

variable {context : Fields} {heading : Heading} {content : String}

theorem Heading.lineAfter?_of_scan {openings : List (List Char)} {outline : List Mark}
    (scanned : heading.scan openings = some (.done outline))
    (plain : Plain context heading.values heading.imports)
    (rendered : heading.template.render context = .ok content) :
    lineAfter? openings content.toList = some (outlineText context outline) :=
  lineAfter?_of_scanPieces plain scanned rendered

namespace Heading.IsWritten

/-- A file declares the namespace of its heading, up to a semicolon in one of its values. -/
theorem namespaceOf?_eq (written : heading.IsWritten)
    (plain : Plain context heading.values heading.imports)
    (rendered : heading.template.render context = .ok content) :
    namespaceOf? content = some ((outlineText context heading.space).takeWhile (· ≠ ';')) := by
  rw [namespaceOf?, lineAfter?_of_scan written.space plain rendered, Option.map_some,
    outlineText_append, outlineText_plainOutline]
  exact congrArg some (takeWhile_append_cons ';' _ [])

/-- A file declares a class or trait with the name of the request and the suffix of its heading. -/
theorem declaredName?_eq (written : heading.IsWritten)
    (plain : Plain context heading.values heading.imports)
    (rendered : heading.template.render context = .ok content)
    (inked : ∀ character ∈ (shown context "name").toList, isBlank character = false) :
    declaredName? content = some ((shown context "name").toList ++ heading.suffix.toList) := by
  have inkedName : ∀ character ∈ (shown context "name").toList ++ heading.suffix.toList,
      (!isBlank character) = true := by
    intro character member
    rcases List.mem_append.1 member with inName | inSuffix
    · rw [inked character inName]
      rfl
    · exact List.all_eq_true.1 written.suffixed character inSuffix
  rw [declaredName?, lineAfter?_of_scan written.declared plain rendered, Option.map_some,
    outlineText_append, outlineText_append, outlineText_plainOutline, outlineText_plainOutline,
    outlineText_value_cons, outlineText_nil, List.append_nil,
    List.takeWhile_append_of_pos inkedName, written.parted, List.append_nil]

end Heading.IsWritten

/-- A listener is declared for an event and takes one, both of the same name. -/
theorem events_of_render (plain : Plain context listenerHeading.values listenerHeading.imports)
    (rendered : listener.render context = .ok content) :
    listenedEvent? content = some (shown context "event").toList ∧
      handledEvent? content = some (shown context "event").toList := by
  obtain ⟨listened, handled⟩ := scan_listenerHeading
  have listenedLine := Heading.lineAfter?_of_scan listened plain rendered
  have handledLine := Heading.lineAfter?_of_scan handled plain rendered
  rw [outlineText_append, outlineText_value_cons, outlineText_nil, List.append_nil,
    outlineText_plainOutline] at listenedLine handledLine
  constructor
  · rw [listenedEvent?, listenedLine, Option.bind_some, before?_eq_some_iff]
  · rw [handledEvent?, handledLine, Option.bind_some, before?_eq_some_iff]

end Template

end Scaffold
