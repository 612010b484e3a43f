import TokenStream.Proofs.Places
import TokenStream.Proofs.Stores

/-!
Sessions of an editor. Whatever happened before, what is published of a document tells of the text
that the document has now: that it lexes, or else which character of which line it fails at.
-/
namespace TokenStream

/-- All that is published of a text. -/
def diagnose (text : String) : List Diagnostic := (Diagnostic.ofText text).1.getD []

/-- Nothing is wrong with a text that lexes. Of another text there is the message of the lexer, at
the one character of a line that the lexer fails at. -/
inductive Describes (text : String) : List Diagnostic → Prop
  | clean {tokens : List Token} (h : tokenize text true = .ok tokens) : Describes text []
  | flawed {e : LexError} {l k : Nat} {line : String} {c : Char}
    (h : tokenize text true = .error (.lexical e)) (ho : 0 ≤ e.offset)
    (hc : text.toList[e.offset.toNat]? = some c) (hl : (splitLines text)[l]? = some line)
    (hk : line.toList[k]? = some c) : Describes text [⟨⟨l, k⟩, ⟨l, k + 1⟩, e.message⟩]

/-- The text that the last of the events on a document gives to it. -/
def latestText (uri : String) (events : List Event) : Option String :=
  (events.reverse.find? (·.uri == uri)).map Event.text

/-- The last of the publications of a document. -/
def lastPublication (uri : String) (responses : List Workspace.Response) : Option Publication :=
  (responses.flatMap Workspace.Response.published).reverse.find? (·.uri == uri)

variable {text uri : String} {w : Workspace} {event : Event} {events : List Event}

/-! ### Diagnostics -/

theorem ofText_eq (text : String) :
    (Diagnostic.ofText text).1 =
      match tokenize text true with
      | .ok _ => some []
      | .error (.lexical e) => some [.ofError e]
      | .error _ => none := by
  simp only [Diagnostic.ofText, tokenize]
  generalize (Lexer.ofSource text true).collect = reply
  rcases reply with ⟨⟨_ | _ | _⟩ | tokens, lexer⟩ <;> rfl

/-- The lexer stops for no other reason than an error in the text. -/
theorem ofText_eq_some (text : String) : (Diagnostic.ofText text).1 = some (diagnose text) := by
  have h := ofText_eq text
  have hl := lexed_tokenize text true
  generalize tokenize text true = result at h hl
  rw [diagnose]
  cases hl with
  | whole | stopped => rw [h, Option.getD_some]

theorem describes_diagnose (text : String) : Describes text (diagnose text) := by
  have h := ofText_eq text
  rw [ofText_eq_some] at h
  generalize ht : tokenize text true = result at h
  cases lexed_of_tokenize ht with
  | whole =>
    rw [Option.some.inj h]
    exact .clean ht
  | stopped =>
    rw [Option.some.inj h]
    obtain ⟨c, l, k, line, ho, hc, hline, hcolumn, hl, hk⟩ := place_of_tokenize ht
    rw [Diagnostic.ofError, hline, hcolumn]
    simpa using Describes.flawed ht ho hc hl hk

/-! ### Events -/

theorem published_handle (w : Workspace) (event : Event) :
    (w.handle event).1.published = [⟨event.uri, diagnose event.text⟩] := by
  simp [Workspace.handle, Workspace.validate, Workspace.text?_put, ofText_eq_some]

theorem text?_handle (w : Workspace) (event : Event) (uri : String) :
    (w.handle event).2.text? uri = if uri = event.uri then some event.text else w.text? uri :=
  w.text?_put event.uri event.text uri

theorem latestText_cons :
    latestText uri (event :: events) =
      (latestText uri events).or (if uri = event.uri then some event.text else none) := by
  rw [latestText, latestText, List.reverse_cons, List.find?_append]
  cases events.reverse.find? (·.uri == uri) with
  | some e => rfl
  | none =>
    by_cases h : uri = event.uri
    · simp [h]
    · simp [h, Ne.symm h]

/-! ### Runs -/

theorem published_run (w : Workspace) (events : List Event) :
    (w.run events).1.map Workspace.Response.published =
      events.map fun event => [⟨event.uri, diagnose event.text⟩] := by
  induction events generalizing w with
  | nil => rfl
  | cons event events ih =>
    rw [List.map_cons, ← published_handle w event, ← ih (w.handle event).2]
    rfl

theorem text?_run (w : Workspace) (events : List Event) (uri : String) :
    (w.run events).2.text? uri = (latestText uri events).or (w.text? uri) := by
  induction events generalizing w with
  | nil => rfl
  | cons event events ih =>
    have hr : (w.run (event :: events)).2 = ((w.handle event).2.run events).2 := rfl
    rw [hr, ih, text?_handle, latestText_cons, Option.or_assoc]
    split <;> rfl

theorem lastPublication_run (w : Workspace) (events : List Event) (uri : String) :
    lastPublication uri (w.run events).1 =
      (latestText uri events).map fun text => ⟨uri, diagnose text⟩ := by
  have hp : (w.run events).1.flatMap Workspace.Response.published =
      events.map fun event => ⟨event.uri, diagnose event.text⟩ := by
    rw [List.flatMap_def, published_run, ← List.flatMap_def, ← List.map_eq_flatMap]
  have hf : ((fun p : Publication => p.uri == uri) ∘ fun event : Event =>
      ⟨event.uri, diagnose event.text⟩) = (·.uri == uri) := rfl
  rw [lastPublication, hp, latestText, ← List.map_reverse, List.find?_map, hf, Option.map_map]
  cases he : events.reverse.find? (·.uri == uri) with
  | none => rfl
  | some event =>
    obtain rfl : event.uri = uri := by simpa using List.find?_some he
    rfl

/-- Every event leads to one publication, which tells of the text of the event alone. So in the end
the last publication of a document tells of the text that the document has. -/
theorem session_describes_texts (w : Workspace) (events : List Event) :
    (∀ text, Describes text (diagnose text)) ∧
      (w.run events).1.map Workspace.Response.published =
        (events.map fun event => [⟨event.uri, diagnose event.text⟩]) ∧
      ∀ uri,
        lastPublication uri (w.run events).1 =
            ((latestText uri events).map fun text => ⟨uri, diagnose text⟩) ∧
          (w.run events).2.text? uri = (latestText uri events).or (w.text? uri) :=
  ⟨describes_diagnose, published_run w events, fun uri =>
    ⟨lastPublication_run w events uri, text?_run w events uri⟩⟩

end TokenStream
