/-
What generated files are made of.

A generator looks up the files that are asked for, and of each it uses the path and the messages
that have a role, with their bindings (`result_files`).  So a run ends well iff each selected name
has a file whose messages can be bound, and then it gives what is made of these messages, name by
name (`generate_eq_ok`).  In any case it depends on nothing else: requests with the same bound
messages under each selected name have the same result (`generate_congr`).
-/
import DeviceGen.Proofs.Can.Generated

namespace DeviceGen

open DeviceGen.Schema (Registry Role ValueType)

/-! ### Messages that are bound -/

/-- Whether a message has a role. -/
def Schema.Message.isClassified (message : Schema.Message) : Bool := message.role ≠ .unclassified

namespace Context

/-- A message in its role, with its bindings. -/
def bind (context : Context) (message : Schema.Message) : Except Error Can.Message :=
  (Binding.ofMessage context.registry context.options message.role message).map
    fun bindings => ⟨message.name, message.role, bindings⟩

/-- The messages that have a role, with their bindings, in order. -/
def bound (context : Context) : List Schema.Message → Except Error (List Can.Message)
  | [] => .ok []
  | message :: messages =>
    if message.isClassified then do
      let m ← context.bind message
      let ms ← context.bound messages
      return m :: ms
    else context.bound messages

end Context

/-- The file of widgets of bound messages, for the schema file with a path. -/
def Widgets.output (options : Options) (selected : Nat) (stem : String)
    (messages : List Can.Message) : Output.File :=
  Output.assemble (Output.fileName ownName stem selected) (preamble options) ""
    (messages.map fun m => render m.name m.role m.bindings)

/-- The header and the source of packed messages, for the schema file with a path. -/
def Can.outputs (selected : Nat) (stem : String) (packed : List Can.Message) : List Output.File :=
  let headerFile := Output.fileName headerName stem selected
  [header headerFile packed, source (Output.fileName sourceName stem selected) headerFile packed]

/-- The files of bound messages, for the schema file with a path. -/
def Generator.outputs (generator : Generator) (options : Options) (selected : Nat) (stem : String)
    (messages : List Can.Message) : List Output.File :=
  match generator with
  | .widgets => [Widgets.output options selected stem messages]
  | .can => Can.outputs selected stem (messages.filter Can.Message.isPacked)

section Results

variable {ε α β γ : Type}

theorem except_map_map (x : Except ε α) (f : α → β) (g : β → γ) :
    (x.map f).map g = x.map fun a => g (f a) := by
  cases x <;> rfl

theorem except_bind_ok (x : Except ε α) (f : α → β) :
    (x >>= fun a => .ok (f a)) = x.map f := by
  cases x <;> rfl

theorem except_map_eq_ok {x : Except ε α} {f : α → β} {b : β} :
    x.map f = .ok b ↔ ∃ a, x = .ok a ∧ f a = b := by
  cases x <;> simp [Except.map]

/-- Lists whose members correspond are turned into the same list if these become the same. -/
theorem map_eq_of_forall₂ {R : α → β → Prop} {f : α → γ} {g : β → γ} {as : List α} {bs : List β}
    (h : List.Forall₂ R as bs) (hsame : ∀ a b, R a b → f a = g b) : as.map f = bs.map g := by
  have hmap : List.Forall₂ Eq (as.map f) (bs.map g) := List.rel_map (@hsame) h
  rwa [List.forall₂_eq_eq_eq] at hmap

end Results

section Bound

variable {context : Context}

/-- Messages are bound one by one, and those without a role are left out. -/
theorem Context.forall₂_bound {messages : List Schema.Message}
    {ms : List Can.Message} (h : context.bound messages = .ok ms) :
    List.Forall₂ (fun message m => message.isClassified = true ∧ context.bind message = .ok m)
      (messages.filter Schema.Message.isClassified) ms := by
  induction messages generalizing ms with
  | nil =>
      cases h
      exact .nil
  | cons message messages ih =>
      rw [Context.bound] at h
      by_cases hclassified : message.isClassified = true
      · rw [if_pos hclassified] at h
        cases hbind : context.bind message with
        | error e =>
            rw [hbind] at h
            cases h
        | ok m =>
            cases hrest : context.bound messages with
            | error e =>
                rw [hbind, hrest] at h
                cases h
            | ok rest =>
                rw [hbind, hrest] at h
                cases h
                rw [List.filter_cons_of_pos hclassified]
                exact .cons ⟨hclassified, hbind⟩ (ih hrest)
      · rw [if_neg hclassified] at h
        rw [List.filter_cons_of_neg hclassified]
        exact ih h

/-! Both generators go through all messages and turn those that have a role into something; what
the others give is skipped when everything is put together. -/

theorem Context.map_each {β γ : Type} {f : Schema.Message → Traced β} {make : Can.Message → β}
    {skipped : β} (collect : List β → γ) (combine : β → γ → γ)
    (hstep : ∀ message, (f message).result
      = if message.isClassified then (context.bind message).map make else .ok skipped)
    (hcons : ∀ b bs, collect (b :: bs) = combine b (collect bs))
    (hskipped : ∀ c, combine skipped c = c) (messages : List Schema.Message) :
    (Traced.each f messages).result.map collect
      = (context.bound messages).map fun ms => collect (ms.map make) := by
  induction messages with
  | nil => rfl
  | cons message messages ih =>
      have hturn (b : β) : ((Traced.each f messages).result >>= fun bs => .ok (b :: bs)).map collect
          = ((context.bound messages).map fun ms => collect (ms.map make)).map (combine b) := by
        rw [← ih]
        cases (Traced.each f messages).result with
        | error e => rfl
        | ok bs => exact congrArg Except.ok (hcons b bs)
      rw [Traced.each, bound]
      simp only [Traced.result_bind, Traced.result_pure, hstep]
      by_cases hclassified : message.isClassified = true
      · rw [if_pos hclassified, if_pos hclassified]
        cases context.bind message with
        | error e => rfl
        | ok m =>
            refine (hturn (make m)).trans ?_
            cases context.bound messages with
            | error e => rfl
            | ok ms => exact congrArg Except.ok (hcons (make m) (ms.map make)).symm
      · rw [if_neg hclassified, if_neg hclassified]
        refine (hturn skipped).trans ?_
        cases context.bound messages with
        | error e => rfl
        | ok ms => exact congrArg Except.ok (hskipped _)

theorem Widgets.result_part (message : Schema.Message) :
    (part context message).result
      = if message.isClassified then
          (context.bind message).map fun m => render m.name m.role m.bindings
        else .ok (Output.Part.empty .unclassified) := by
  unfold part
  split
  · next hrole =>
      rw [if_neg (by simp [Schema.Message.isClassified, hrole])]
      rfl
  · next hrole =>
      rw [if_pos (by simpa [Schema.Message.isClassified] using hrole), Traced.result_bind]
      unfold Context.bind Context.bindings
      rw [Traced.result_ofExcept]
      cases Binding.ofMessage context.registry context.options message.role message <;> rfl

theorem Can.result_message? (message : Schema.Message) :
    (message? context message).result
      = if message.isClassified then
          (context.bind message).map fun m => if m.isPacked then some m else none
        else .ok none := by
  unfold message?
  split
  · next hrole =>
      rw [if_neg (by simp [Schema.Message.isClassified, hrole])]
      rfl
  · next hrole =>
      rw [if_pos (by simpa [Schema.Message.isClassified] using hrole), Traced.result_bind]
      unfold Context.bind Context.bindings
      rw [Traced.result_ofExcept]
      cases Binding.ofMessage context.registry context.options message.role message with
      | error e => rfl
      | ok bindings =>
          have hpacked : Message.isPacked ⟨message.name, message.role, bindings⟩
              = !bindings.isEmpty := by
            simpa [Message.isPacked] using fun _ => hrole
          show _ = Except.ok (if Message.isPacked ⟨_, _, bindings⟩ = true then some _ else none)
          rw [hpacked]
          cases bindings <;> rfl

theorem Widgets.result_file (schema : Schema.File) :
    (file context schema).result = (context.bound schema.messages).map
      (output context.options context.selected schema.stem) := by
  -- of the parts only their joined text gets into the file
  let made (text : String) : Output.File :=
    ⟨Output.fileName ownName schema.stem context.selected,
      preamble context.options ++ text ++ ""⟩
  have hjoined := Context.map_each (fun parts => String.join (parts.map Output.Part.text))
    (fun part text => part.text ++ text) (@result_part context)
    (fun part parts => by rw [List.map_cons, String.join_cons])
    (fun text => String.empty_append) schema.messages
  have hfile := congrArg (Except.map made) hjoined
  rw [except_map_map, except_map_map] at hfile
  unfold file
  simp only [Traced.result_bind, Traced.result_pure]
  rw [except_bind_ok]
  exact hfile

theorem Can.result_files (schema : Schema.File) :
    (files context schema).result = (context.bound schema.messages).map fun ms =>
      outputs context.selected schema.stem (ms.filter Message.isPacked) := by
  have hfound := Context.map_each (List.filterMap id) (fun m? ms => m?.toList ++ ms)
    (@result_message? context) (fun m? ms => by cases m? <;> rfl) (fun ms => rfl) schema.messages
  have hpacked (ms : List Message) :
      (ms.map fun m => if m.isPacked then some m else none).filterMap id
        = ms.filter Message.isPacked := by
    rw [List.filterMap_map, ← List.filterMap_eq_filter]
    rfl
  simp only [hpacked] at hfound
  have hfiles := congrArg (Except.map (outputs context.selected schema.stem)) hfound
  rw [except_map_map, except_map_map] at hfiles
  unfold files
  simp only [Traced.result_bind, Traced.result_pure]
  rw [except_bind_ok]
  exact hfiles

/-- **What a file is made of.**  The files for a schema file are made of its bound messages and
its path, or binding its messages fails. -/
theorem Generator.result_files (generator : Generator) (schema : Schema.File) :
    (generator.files context schema).result = (context.bound schema.messages).map
      (generator.outputs context.options context.selected schema.stem) := by
  cases generator with
  | widgets =>
      unfold files
      simp only [Traced.result_bind, Traced.result_pure]
      rw [except_bind_ok, Widgets.result_file, except_map_map]
      rfl
  | can => exact Can.result_files schema

end Bound

/-! ### Whole runs -/

namespace Traced

variable {α α' β : Type} {f : α → Traced β} {g : α' → Traced β}

/-- Loops whose turns end in the same way end in the same way. -/
theorem result_each_congr {l : List α} {l' : List α'}
    (h : (l.map fun a => (f a).result) = l'.map fun a => (g a).result) :
    (each f l).result = (each g l').result := by
  induction l generalizing l' with
  | nil =>
      cases l' with
      | nil => rfl
      | cons a' l' => cases h
  | cons a l ih =>
      cases l' with
      | nil => cases h
      | cons a' l' =>
          obtain ⟨hfirst, hrest⟩ := List.cons.inj h
          rw [each, each]
          simp only [result_bind, result_pure, hfirst, ih hrest]

/-- Loops over what was found go the same way if what was found is used in the same way. -/
theorem bind_each_congr {x : Except Error (List α)} {x' : Except Error (List α')}
    (h : x.map (List.map fun a => (f a).result) = x'.map (List.map fun a => (g a).result)) :
    (x >>= fun l => (each f l).result) = x' >>= fun l => (each g l).result := by
  cases x with
  | error e =>
      cases x' with
      | error e' =>
          cases h
          rfl
      | ok l' => cases h
  | ok l =>
      cases x' with
      | error e' => cases h
      | ok l' => exact result_each_congr (Except.ok.inj h)

/-- A loop ends well iff all of its turns do. -/
theorem result_each_eq_ok {l : List α} {bs : List β} :
    (each f l).result = .ok bs ↔ (l.map fun a => (f a).result) = bs.map .ok := by
  induction l generalizing bs with
  | nil => cases bs <;> simp [each]
  | cons a l ih =>
      rw [each, List.map_cons]
      simp only [result_bind, result_pure, except_bind_ok]
      cases (f a).result with
      | error e =>
          show Except.error e = Except.ok bs ↔ _
          cases bs <;> simp
      | ok b =>
          show (each f l).result.map (b :: ·) = .ok bs ↔ _
          cases bs with
          | nil => cases (each f l).result <;> simp [Except.map]
          | cons b' bs =>
              rw [List.map_cons, List.cons.injEq, ← ih]
              cases (each f l).result <;> simp [Except.map]

/-- A loop over what was found ends well iff something was found and all turns end well. -/
theorem bind_each_eq_ok {x : Except Error (List α)} {bs : List β} :
    (x >>= fun l => (each f l).result) = .ok bs
      ↔ x.map (List.map fun a => (f a).result) = .ok (bs.map .ok) := by
  cases x with
  | error e =>
      show Except.error e = Except.ok bs ↔ Except.error e = Except.ok (bs.map Except.ok)
      simp
  | ok l =>
      show (each f l).result = .ok bs ↔ Except.ok (l.map fun a => (f a).result) = _
      rw [result_each_eq_ok, Except.ok.injEq]

end Traced

namespace Schema.Model

variable {α : Type} {view view' : Schema.File → α} {model model' : Schema.Model}

theorem map_select_cons (view : Schema.File → α) (model : Schema.Model) (name : String)
    (names : List String) :
    (model.select (name :: names)).map (List.map view)
      = match (model.file? name).map view with
        | none => .error (.missingFile name)
        | some v => ((model.select names).map (List.map view)).map (v :: ·) := by
  rw [select]
  cases model.file? name with
  | none => rfl
  | some file => cases model.select names <;> rfl

/-- Selections are used in the same way if the files found for each name are. -/
theorem select_congr {names : List String}
    (h : ∀ name ∈ names, (model.file? name).map view = (model'.file? name).map view') :
    (model.select names).map (List.map view) = (model'.select names).map (List.map view') := by
  induction names with
  | nil => rfl
  | cons name names ih =>
      rw [map_select_cons, map_select_cons, h name List.mem_cons_self,
        ih fun other hother => h other (List.mem_cons_of_mem name hother)]

/-- A selection is found iff each of its names is. -/
theorem map_select_eq_ok {names : List String} {views : List α} :
    (model.select names).map (List.map view) = .ok views
      ↔ (names.map fun name => (model.file? name).map view) = views.map some := by
  induction names generalizing views with
  | nil => cases views <;> simp [select, Except.map]
  | cons name names ih =>
      rw [map_select_cons, List.map_cons]
      cases (model.file? name).map view with
      | none => cases views <;> simp
      | some v =>
          cases views with
          | nil => cases (model.select names).map (List.map view) <;> simp [Except.map]
          | cons v' views =>
              rw [List.map_cons, List.cons.injEq, ← ih]
              cases (model.select names).map (List.map view) <;> simp [Except.map]

end Schema.Model

namespace Descriptor.Request

/-- The bound messages of the first file with a name, if there is one. -/
def bound? (request : Request) (name : String) : Option (Except Error (List Can.Message)) :=
  ((Schema.Model.ofRequest request).file? name).map fun schema =>
    request.context.bound schema.messages

/-- The bound messages of a file that is found and can be bound. -/
def boundMessages (request : Request) (name : String) : List Can.Message :=
  ((request.bound? name).bind Except.toOption).getD []

theorem bound?_of_map {request : Request} {name : String} {f : List Can.Message → List Output.File}
    {group : List Output.File}
    (h : (request.bound? name).map (Except.map f) = some (.ok group)) :
    request.bound? name = some (.ok (request.boundMessages name)) := by
  unfold boundMessages
  obtain ⟨x, hx, hmap⟩ := Option.map_eq_some_iff.mp h
  obtain ⟨ms, rfl, -⟩ := except_map_eq_ok.mp hmap
  rw [hx]
  rfl

/-- The options that a request asks for. -/
def options (request : Request) : Options := Options.ofParameter request.parameter

end Descriptor.Request

namespace Generator

variable {request other : Descriptor.Request}

/-- The files of bound messages, for the schema file with a name. -/
def outputsFor (generator : Generator) (request : Descriptor.Request) (name : String) :
    List Can.Message → List Output.File :=
  generator.outputs request.options request.selected.length (Text.beforeEnding ".proto" name)

/-- The first file with a name gives the files made of its bound messages. -/
theorem map_result_file? (generator : Generator) (request : Descriptor.Request) (name : String) :
    ((Schema.Model.ofRequest request).file? name).map
        (fun schema => (generator.files request.context schema).result)
      = (request.bound? name).map (Except.map (generator.outputsFor request name)) := by
  unfold Descriptor.Request.bound?
  rw [Option.map_map]
  cases hfile : (Schema.Model.ofRequest request).file? name with
  | none => rfl
  | some schema =>
      have hname : schema.name = name := by
        simpa using List.find?_some (show List.find? _ _ = _ from hfile)
      have hresult : (generator.files request.context schema).result
          = (request.context.bound schema.messages).map (generator.outputs _ _ schema.stem) :=
        generator.result_files schema
      unfold Schema.File.stem at hresult
      rw [hname] at hresult
      exact congrArg some hresult

/-- A run looks the selected files up and then goes through them. -/
theorem result_generate_eq (generator : Generator) (request : Descriptor.Request) :
    (generator.generate request).result
      = ((Schema.Model.ofRequest request).select request.selected >>= fun schemas =>
          (Traced.each (generator.files request.context) schemas).result).map List.flatten := by
  rw [result_generate]
  cases (Schema.Model.ofRequest request).select request.selected with
  | error e => rfl
  | ok schemas =>
      exact except_bind_ok
        (Traced.each (generator.files request.context) schemas).result List.flatten

/-- **What a run depends on.**  Requests with the same selection and parameter give the same
result if the files found for each selected name have the same bound messages. -/
theorem generate_congr (generator : Generator) (hselected : request.selected = other.selected)
    (hparameter : request.parameter = other.parameter)
    (hbound : ∀ name ∈ request.selected, request.bound? name = other.bound? name) :
    (generator.generate request).result = (generator.generate other).result := by
  have houtputs : generator.outputsFor request = generator.outputsFor other := by
    unfold outputsFor Descriptor.Request.options
    rw [hselected, hparameter]
  rw [result_generate_eq, result_generate_eq, ← hselected]
  refine congrArg (Except.map List.flatten) (Traced.bind_each_congr ?_)
  refine Schema.Model.select_congr fun name hname => ?_
  rw [map_result_file?, map_result_file?, hbound name hname, houtputs]

/-- The groups of files that a run gives are made of the bound messages of the selected names. -/
theorem each_selected_eq_ok (generator : Generator) {groups : List (List Output.File)} :
    ((Schema.Model.ofRequest request).select request.selected >>= fun schemas =>
        (Traced.each (generator.files request.context) schemas).result) = .ok groups
      ↔ (request.selected.map fun name =>
          (request.bound? name).map (Except.map (generator.outputsFor request name)))
        = groups.map fun group => some (.ok group) := by
  rw [Traced.bind_each_eq_ok, Schema.Model.map_select_eq_ok, List.map_map]
  simp only [map_result_file?]
  rfl

/-- **When a run ends well, and what it gives.**  For each selected name there has to be a file,
and its messages have to be bound; each such file gives what is made of its bound messages, in
the order of the selection. -/
theorem generate_eq_ok (generator : Generator) {files : List Output.File} :
    (generator.generate request).result = .ok files
      ↔ ∃ bound : String → List Can.Message,
          (∀ name ∈ request.selected, request.bound? name = some (.ok (bound name)))
          ∧ files = request.selected.flatMap fun name =>
            generator.outputsFor request name (bound name) := by
  have hgroups {bound : String → List Can.Message}
      (hbound : ∀ name ∈ request.selected, request.bound? name = some (.ok (bound name))) :
      (request.selected.map fun name =>
          (request.bound? name).map (Except.map (generator.outputsFor request name)))
        = (request.selected.map fun name => generator.outputsFor request name (bound name)).map
          fun group => some (.ok group) := by
    rw [List.map_map]
    refine List.map_congr_left fun name hname => ?_
    rw [hbound name hname]
    rfl
  rw [result_generate_eq]
  constructor
  · intro h
    obtain ⟨groups, hrun, hflatten⟩ := except_map_eq_ok.mp h
    have hnames := generator.each_selected_eq_ok.mp hrun
    have hbound : ∀ name ∈ request.selected,
        request.bound? name = some (.ok (request.boundMessages name)) := by
      intro name hname
      have hmem := hnames ▸ List.mem_map_of_mem hname
      obtain ⟨group, -, hgroup⟩ := List.mem_map.mp hmem
      exact Descriptor.Request.bound?_of_map hgroup.symm
    have heach : groups = request.selected.map fun name =>
        generator.outputsFor request name (request.boundMessages name) :=
      (List.map_inj_right fun _ _ h => Except.ok.inj (Option.some.inj h)).mp
        (hnames.symm.trans (hgroups hbound))
    exact ⟨request.boundMessages, hbound, by rw [← hflatten, heach, List.flatMap_def]⟩
  · rintro ⟨bound, hbound, rfl⟩
    exact except_map_eq_ok.mpr
      ⟨_, generator.each_selected_eq_ok.mpr (hgroups hbound), (List.flatMap_def ..).symm⟩

end Generator

end DeviceGen
