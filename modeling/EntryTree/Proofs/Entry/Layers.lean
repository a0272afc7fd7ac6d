import EntryTree.Action.Basic
import EntryTree.Entry.Operation

/-!
# Layers of declarations

A native entry can stand behind any number of tables. How it serves actions is then told by the
outermost table alone, and everything else by the native entry alone. The main statement,
`wrap_layers`, says this of every entry and every stack of layers around it.

Everything but the signatures of actions comes from what the native entry is and has and from how it
is listed. No table touches the two.
-/

namespace EntryTree

/-- What is declared around an entry: signatures of actions, or actions with their usual one. Names
may be repeated. -/
inductive Layer
  | signatures (declared : List (String × Signature))
  | actions (names : List String)

namespace Layer

/-- The table of what is declared. -/
def table : Layer → Keyed Signature
  | .signatures declared => .ofList declared
  | .actions names => .ofActions names

/-- The signature that is declared of an action. Later declarations of a name replace earlier
ones. -/
def signature (name : String) : Layer → Signature
  | .signatures declared => (declared.reverse.lookup name).getD .unsupported
  | .actions names => .usualIf (names.contains name)

theorem lookup_usual (names : List String) (name : String) :
    (names.map fun name => (name, Signature.usual)).lookup name =
      if names.contains name then some .usual else none := by
  induction names with
  | nil => rfl
  | cons first names ih =>
      rw [List.map_cons, Keyed.lookup_cons, ih]
      by_cases here : name = first <;> simp [here]

/-- The table of a layer tells of every action what the layer declares. -/
theorem declared_table (layer : Layer) (name : String) :
    Action.declared layer.table name = layer.signature name := by
  cases layer with
  | signatures declared => rw [Action.declared, table, Keyed.find?_ofList, signature]
  | actions names =>
      rw [Action.declared, table, Keyed.ofActions, Keyed.find?_ofList, ← List.map_reverse,
        lookup_usual, List.contains_reverse, signature]
      cases names.contains name <;> rfl

end Layer

namespace Entry

variable {entry other : Entry}

/-! ## What the native entry tells -/

theorem satisfies_congr (profile : entry.profile = other.profile)
    (group : entry.group? = other.group?) (capability : Capability) :
    entry.satisfies capability = other.satisfies capability := by
  cases capability <;> simp only [satisfies, profile, group]

theorem serve_congr (profile : entry.profile = other.profile)
    (group : entry.group? = other.group?) (cancelled : Bool) (operation : Operation) :
    entry.serve cancelled operation = other.serve cancelled operation := by
  have lacking : entry.lacking = other.lacking := by
    funext operation
    rw [Entry.lacking, Entry.lacking, name, name, profile]
  cases operation <;> simp only [serve, profile, group, lacking]

theorem perform_congr (profile : entry.profile = other.profile)
    (group : entry.group? = other.group?) (cancelled : Bool) (effects : Effects)
    (operation : Operation) :
    entry.perform cancelled effects operation = other.perform cancelled effects operation := by
  rw [perform, perform, serve_congr profile group]

theorem request?_congr (profile : entry.profile = other.profile)
    (group : entry.group? = other.group?) (cancelled : Bool) (effects : Effects)
    (operation : Operation) :
    entry.request? cancelled effects operation = other.request? cancelled effects operation := by
  rw [request?, request?, satisfies_congr profile group, perform_congr profile group]

/-! ## Stacks of layers -/

theorem profile_wrap (entry : Entry) (tables : List (Keyed Signature)) :
    (entry.wrap tables).profile = entry.profile := by
  induction tables generalizing entry with
  | nil => rfl
  | cons table tables ih => exact ih (.declared table entry)

theorem group?_wrap (entry : Entry) (tables : List (Keyed Signature)) :
    (entry.wrap tables).group? = entry.group? := by
  induction tables generalizing entry with
  | nil => rfl
  | cons table tables ih => exact ih (.declared table entry)

theorem wrap_append_singleton (entry : Entry) (tables : List (Keyed Signature))
    (table : Keyed Signature) :
    entry.wrap (tables ++ [table]) = .declared table (entry.wrap tables) := by
  simp [wrap]

/-- Of all layers around an entry the outermost one tells how actions are served, whatever the
others declare and whatever the entry satisfies. Everything else is as it is without the layers:
what the entry is called and has, what it satisfies, and what becomes of every operation. -/
theorem wrap_layers (entry : Entry) (inner : List Layer) (outermost : Layer) :
    let wrapped := entry.wrap ((inner ++ [outermost]).map Layer.table)
    (∀ action : Action, action.signature wrapped = outermost.signature action.name) ∧
    wrapped.name = entry.name ∧ wrapped.attributes = entry.attributes ∧
    wrapped.capabilities = entry.capabilities ∧ wrapped.cachePolicy? = entry.cachePolicy? ∧
    wrapped.group? = entry.group? ∧ wrapped.profile.metadata = entry.profile.metadata ∧
    wrapped.blockSize = entry.blockSize ∧
    ∀ cancelled effects operation,
      wrapped.perform cancelled effects operation = entry.perform cancelled effects operation ∧
      wrapped.request? cancelled effects operation =
        entry.request? cancelled effects operation := by
  intro wrapped
  have profile : wrapped.profile = entry.profile := profile_wrap entry _
  have group : wrapped.group? = entry.group? := group?_wrap entry _
  refine ⟨?_, congrArg Profile.name profile, congrArg Profile.attributes profile, ?_, ?_, group,
    congrArg Profile.metadata profile, ?_, ?_⟩
  · intro action
    have outside : wrapped =
        .declared outermost.table (entry.wrap (inner.map Layer.table)) := by
      simp only [wrapped, List.map_append, List.map_cons, List.map_nil, wrap_append_singleton]
    rw [outside]
    exact outermost.declared_table action.name
  · exact List.filter_congr fun capability _ => satisfies_congr profile group capability
  · rw [cachePolicy?, profile, cachePolicy?]
  · rw [blockSize, profile, blockSize]
  · intro cancelled effects operation
    exact ⟨perform_congr profile group cancelled effects operation,
      request?_congr profile group cancelled effects operation⟩

end Entry
end EntryTree
