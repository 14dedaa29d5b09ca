/-
Where the enumerations of a file stand.

The declarations of a file form a tree: enumerations and messages stand next to each other, and
a message has further ones inside.  A place in the tree says which messages to enter and which
enumeration to take there.  The list that the model keeps for a file goes through the places in
order, so it has each enumeration once, under the name that its place gives it.

If names are without dots, the dots of a full name are those between the names it is made of.
So the names around an enumeration can be read off its full name, and two places have the same
full name only if declarations next to each other do.
-/
import Mathlib.Data.List.Nodup
import DeviceGen.Proofs.Descriptor.Made
import DeviceGen.Proofs.Schema.Declared
import DeviceGen.Proofs.Schema.Registry

namespace DeviceGen

open DeviceGen.Descriptor

/-! ### Places -/

namespace Descriptor

/-- A place among declarations that stand next to each other, counted from zero. -/
inductive Place where
  /-- The enumeration at a position. -/
  | enumeration (index : Nat)
  /-- A place among the declarations inside the message at a position. -/
  | inside (index : Nat) (place : Place)
  deriving DecidableEq, Repr

namespace Place

/-- The order of places: enumerations go before what stands inside of messages, and messages one
after the other. -/
inductive Before : Place → Place → Prop where
  | enumerations {i j : Nat} (lt : i < j) : Before (.enumeration i) (.enumeration j)
  | enumeration {i j : Nat} {place : Place} : Before (.enumeration i) (.inside j place)
  | messages {i j : Nat} {place other : Place} (lt : i < j) :
      Before (.inside i place) (.inside j other)
  | message {i : Nat} {place other : Place} (before : Before place other) :
      Before (.inside i place) (.inside i other)

/-- No place is before itself. -/
theorem Before.ne {place other : Place} (h : Before place other) : place ≠ other := by
  induction h with
  | enumerations lt | messages lt =>
      intro heq
      injection heq
      omega
  | enumeration => exact Place.noConfusion
  | message _ ih =>
      intro heq
      injection heq
      contradiction

/-- The enumeration at a place, with the names of the messages around it from the outside. -/
def find? : Place → List EnumDescriptor → List MessageDescriptor →
    Option (List String × EnumDescriptor)
  | .enumeration i, enums, _ => enums[i]?.map fun e => ([], e)
  | .inside i place, _, messages => messages[i]?.bind fun m =>
      (place.find? m.enums m.nested).map fun (path, e) => (m.name :: path, e)

/-- The places of enumerations and of what messages have inside, in order. -/
def among (enums : Nat) (inner : List (List Place)) : List Place :=
  (List.range enums).map .enumeration
    ++ inner.zipIdx.flatMap fun (places, i) => places.map (.inside i)

end Place

/-- The places inside a message, in order. -/
def MessageDescriptor.places (m : MessageDescriptor) : List Place :=
  Place.among m.enums.length (m.nested.attach.map fun ⟨n, _⟩ => n.places)
termination_by m.depth
decreasing_by exact MessageDescriptor.depth_lt_of_mem_nested ‹_›

/-- The places of declarations that stand next to each other, in order. -/
def placesOf (enums : List EnumDescriptor) (messages : List MessageDescriptor) : List Place :=
  Place.among enums.length (messages.map MessageDescriptor.places)

/-- The enumeration at a place of a file. -/
def FileDescriptor.enumAt? (file : FileDescriptor) (place : Place) :
    Option (List String × EnumDescriptor) :=
  place.find? file.enums file.messages

theorem MessageDescriptor.places_eq (m : MessageDescriptor) :
    m.places = placesOf m.enums m.nested := by
  rw [places, placesOf]
  simp only [List.map_subtype, List.unattach_attach]

namespace Place

theorem enumeration_mem_among {enums i : Nat} {inner : List (List Place)} :
    .enumeration i ∈ among enums inner ↔ i < enums := by
  simp [among]

theorem inside_mem_among {enums i : Nat} {place : Place} {inner : List (List Place)} :
    .inside i place ∈ among enums inner ↔ ∃ places, inner[i]? = some places ∧ place ∈ places := by
  simp [among, List.mem_zipIdx_iff_getElem?]

/-- **The places in the list are those at which an enumeration stands.** -/
theorem mem_placesOf {place : Place} {enums : List EnumDescriptor}
    {messages : List MessageDescriptor} :
    place ∈ placesOf enums messages ↔ (place.find? enums messages).isSome := by
  induction place generalizing enums messages with
  | enumeration i =>
      rw [placesOf, enumeration_mem_among, find?, Option.isSome_map]
      simp
  | inside i place ih =>
      rw [placesOf, inside_mem_among, find?, List.getElem?_map]
      cases messages[i]? with
      | none => simp
      | some m => simp [m.places_eq, ih]

theorem pairwise_among {enums : Nat} {inner : List (List Place)}
    (h : ∀ places ∈ inner, places.Pairwise Before) : (among enums inner).Pairwise Before := by
  rw [among, List.pairwise_append]
  refine ⟨?_, ?_, ?_⟩
  · rw [List.pairwise_map]
    exact List.pairwise_lt_range.imp .enumerations
  · rw [List.pairwise_flatMap]
    refine ⟨fun (places, i) hplaces => ?_, ?_⟩
    · rw [List.pairwise_map]
      exact (h places (List.fst_mem_of_mem_zipIdx hplaces)).imp .message
    · have hpositions : (inner.zipIdx.map Prod.snd).Pairwise (· < ·) := by
        rw [List.zipIdx_map_snd]
        exact List.pairwise_lt_range'
      refine (List.pairwise_map.mp hpositions).imp fun hlt place hplace other hother => ?_
      obtain ⟨_, -, rfl⟩ := List.mem_map.mp hplace
      obtain ⟨_, -, rfl⟩ := List.mem_map.mp hother
      exact .messages hlt
  · intro place hplace other hother
    obtain ⟨_, -, rfl⟩ := List.mem_map.mp hplace
    obtain ⟨_, -, hother⟩ := List.mem_flatMap.mp hother
    obtain ⟨_, -, rfl⟩ := List.mem_map.mp hother
    exact .enumeration

theorem pairwise_places (m : MessageDescriptor) : m.places.Pairwise Before := by
  -- the induction is on the nesting of messages
  induction m using MessageDescriptor.places.induct with
  | case1 m ih =>
      rw [m.places_eq]
      refine pairwise_among fun places hplaces => ?_
      obtain ⟨n, hn, rfl⟩ := List.mem_map.mp hplaces
      exact ih n hn

/-- **The list goes through the places in order.** -/
theorem pairwise_placesOf (enums : List EnumDescriptor) (messages : List MessageDescriptor) :
    (placesOf enums messages).Pairwise Before := by
  refine pairwise_among fun places hplaces => ?_
  obtain ⟨m, -, rfl⟩ := List.mem_map.mp hplaces
  exact pairwise_places m

end Place

end Descriptor

/-! ### The list of enumerations -/

namespace Schema

/-- What the model lists for an enumeration, given the scope that its path starts in. -/
def Enumeration.along (scope : String) (found : List String × EnumDescriptor) : Enumeration :=
  Enumeration.ofDescriptor (scope ++ dotted found.1) found.2

theorem Enumeration.along_own (scope : String) (e : EnumDescriptor) :
    Enumeration.along scope ([], e) = Enumeration.ofDescriptor scope e := by
  rw [along, dotted_nil, String.append_empty]

theorem Enumeration.along_inside (scope name : String) (path : List String) (e : EnumDescriptor) :
    Enumeration.along scope (name :: path, e)
      = Enumeration.along (fullName scope name) (path, e) := by
  unfold along fullName
  rw [dotted_cons]
  simp only [String.append_assoc]

/-- The enumerations of declarations that stand next to each other, and of those inside. -/
def enumsAmong (scope : String) (enums : List EnumDescriptor) (messages : List MessageDescriptor) :
    List Enumeration :=
  enums.map (Enumeration.ofDescriptor scope) ++ messages.flatMap (nestedEnums scope)

theorem flatMap_zipIdx {α β : Type} (f : α → List β) (l : List α) :
    (l.zipIdx.flatMap fun x => f x.1) = l.flatMap f := by
  rw [← List.flatMap_map Prod.fst, List.zipIdx_map_fst]

theorem map_find?_among {α : Type} (f : Place → α) (enums : Nat) (inner : List (List Place)) :
    (Place.among enums inner).map f = (List.range enums).map (fun i => f (.enumeration i))
      ++ inner.zipIdx.flatMap fun (places, i) => places.map fun place => f (.inside i place) := by
  rw [Place.among, List.map_append, List.map_map, List.map_flatMap]
  simp only [List.map_map]
  rfl

/-- **The list has at each place the enumeration that stands there.** -/
theorem map_some_enumsAmong (scope : String) (enums : List EnumDescriptor)
    (messages : List MessageDescriptor)
    (ih : ∀ m ∈ messages, (nestedEnums scope m).map some
      = m.places.map fun place =>
          (place.find? m.enums m.nested).map (Enumeration.along (fullName scope m.name))) :
    (enumsAmong scope enums messages).map some
      = (placesOf enums messages).map fun place =>
          (place.find? enums messages).map (Enumeration.along scope) := by
  unfold enumsAmong placesOf
  rw [map_find?_among, List.map_append]
  congr 1
  · refine List.ext_getElem (by simp) fun i hi _ => ?_
    have hlt : i < enums.length := by simpa using hi
    simp [Place.find?, hlt, Enumeration.along_own]
  · rw [List.map_flatMap, List.zipIdx_map, List.flatMap_map, ← flatMap_zipIdx]
    refine List.flatMap_congr fun (m, i) hm => ?_
    have hm : messages[i]? = some m := List.mem_zipIdx_iff_getElem?.mp hm
    rw [ih m (List.mem_of_getElem? hm)]
    refine List.map_congr_left fun place _ => ?_
    simp only [Place.find?, hm, Option.bind_some, Option.map_map, id]
    refine congrArg (Option.map · _) (funext fun (path, e) => ?_)
    exact (Enumeration.along_inside scope m.name path e).symm

theorem map_some_nestedEnums (scope : String) (m : MessageDescriptor) :
    (nestedEnums scope m).map some
      = m.places.map fun place =>
          (place.find? m.enums m.nested).map (Enumeration.along (fullName scope m.name)) := by
  induction scope, m using nestedEnums.induct with
  | case1 scope m inner ih =>
      rw [nestedEnums_eq, m.places_eq]
      exact map_some_enumsAmong (fullName scope m.name) m.enums m.nested ih

/-- **A file lists at each place the enumeration that stands there, under its full name.** -/
theorem map_some_enumsOf (file : FileDescriptor) :
    (enumsOf file).map some = (placesOf file.enums file.messages).map fun place =>
      (file.enumAt? place).map (Enumeration.along (dotted file.packagePath)) := by
  rw [← fileScope_eq]
  exact map_some_enumsAmong (fileScope file) file.enums file.messages fun m _ =>
    map_some_nestedEnums (fileScope file) m

end Schema

/-! ### Names that are told apart -/

theorem toList_dotted (names : List String) :
    (dotted names).toList = ['.'].intercalate ([] :: names.map String.toList) := by
  induction names with
  | nil => rfl
  | cons name names ih =>
      rw [dotted_cons, String.toList_append, String.toList_append, ih, List.map_cons,
        List.intercalate_cons_cons]
      cases names with
      | nil => simp
      | cons other names => simp [List.intercalate_cons_cons]

/-- Names without dots can be read off where they stand with dots between them. -/
theorem dotted_inj {names others : List String} (hnames : ∀ name ∈ names, '.' ∉ name.toList)
    (hothers : ∀ name ∈ others, '.' ∉ name.toList) (h : dotted names = dotted others) :
    names = others := by
  have hcut {names : List String} (hnames : ∀ name ∈ names, '.' ∉ name.toList) :
      (dotted names).toList.splitOn '.' = [] :: names.map String.toList := by
    rw [toList_dotted]
    refine List.splitOn_intercalate '.' (fun chars hchars => ?_) (List.cons_ne_nil _ _)
    rcases List.mem_cons.mp hchars with rfl | hchars
    · exact List.not_mem_nil
    · obtain ⟨name, hname, rfl⟩ := List.mem_map.mp hchars
      exact hnames name hname
  have hparts := hcut hnames
  rw [h, hcut hothers] at hparts
  exact ((List.map_inj_right fun _ _ => String.toList_inj.mp).mp (List.cons.inj hparts).2).symm

namespace Descriptor

/-- Enumerations and messages of a file that stand next to each other. -/
inductive FileDescriptor.Siblings (file : FileDescriptor) :
    List EnumDescriptor → List MessageDescriptor → Prop where
  | outermost : file.Siblings file.enums file.messages
  | inside {enums : List EnumDescriptor} {messages : List MessageDescriptor}
      {m : MessageDescriptor} (around : file.Siblings enums messages) (mem : m ∈ messages) :
      file.Siblings m.enums m.nested

/-- Declarations that stand next to each other, if messages are two deep at most. -/
theorem FileDescriptor.Siblings.of_shallow {file : FileDescriptor}
    (hflat : ∀ m ∈ file.messages, ∀ n ∈ m.nested, n.nested = []) {enums : List EnumDescriptor}
    {messages : List MessageDescriptor} (h : file.Siblings enums messages) :
    (enums = file.enums ∧ messages = file.messages)
      ∨ (∃ m ∈ file.messages, enums = m.enums ∧ messages = m.nested)
      ∨ ∃ m ∈ file.messages, ∃ n ∈ m.nested, enums = n.enums ∧ messages = [] := by
  induction h with
  | outermost => exact .inl ⟨rfl, rfl⟩
  | @inside _ _ m _ mem ih =>
      rcases ih with ⟨-, rfl⟩ | ⟨outer, houter, -, rfl⟩ | ⟨_, _, _, _, -, rfl⟩
      · exact .inr (.inl ⟨m, mem, rfl, rfl⟩)
      · exact .inr (.inr ⟨outer, houter, m, mem, rfl, hflat outer houter m mem⟩)
      · exact absurd mem List.not_mem_nil

/-- Declarations that can be told apart by their names, which are without dots. -/
structure AreToldApart (enums : List EnumDescriptor) (messages : List MessageDescriptor) :
    Prop where
  enums_distinct : (enums.map EnumDescriptor.name).Nodup
  messages_distinct : (messages.map MessageDescriptor.name).Nodup
  enums_undotted : ∀ e ∈ enums, '.' ∉ e.name.toList
  messages_undotted : ∀ m ∈ messages, '.' ∉ m.name.toList

instance (enums : List EnumDescriptor) (messages : List MessageDescriptor) :
    Decidable (AreToldApart enums messages) :=
  decidable_of_iff ((enums.map EnumDescriptor.name).Nodup
      ∧ (messages.map MessageDescriptor.name).Nodup
      ∧ (∀ e ∈ enums, '.' ∉ e.name.toList) ∧ ∀ m ∈ messages, '.' ∉ m.name.toList)
    ⟨fun ⟨a, b, c, d⟩ => ⟨a, b, c, d⟩, fun ⟨a, b, c, d⟩ => ⟨a, b, c, d⟩⟩

/-- Wherever declarations of the file stand next to each other, they can be told apart. -/
def FileDescriptor.IsUnambiguous (file : FileDescriptor) : Prop :=
  ∀ enums messages, file.Siblings enums messages → AreToldApart enums messages

namespace Place

variable {file : FileDescriptor} {enums : List EnumDescriptor} {messages : List MessageDescriptor}
  {place other : Place} {path otherPath : List String} {e otherEnum : EnumDescriptor}

theorem find?_inside {i : Nat} (h : find? (.inside i place) enums messages = some (path, e)) :
    ∃ m inner, messages[i]? = some m ∧ place.find? m.enums m.nested = some (inner, e)
      ∧ path = m.name :: inner := by
  rw [find?] at h
  obtain ⟨m, hm, h⟩ := Option.bind_eq_some_iff.mp h
  obtain ⟨⟨inner, _⟩, hinner, heq⟩ := Option.map_eq_some_iff.mp h
  cases heq
  exact ⟨m, inner, hm, hinner, rfl⟩

theorem find?_enumeration {i : Nat} (h : find? (.enumeration i) enums messages = some (path, e)) :
    enums[i]? = some e ∧ path = [] := by
  rw [find?] at h
  obtain ⟨_, he, heq⟩ := Option.map_eq_some_iff.mp h
  cases heq
  exact ⟨he, rfl⟩

/-- Members of a list whose names are different are at one position if they have one name. -/
theorem position_eq {α : Type} {name : α → String} {l : List α} (hdistinct : (l.map name).Nodup)
    {i j : Nat} {a b : α} (ha : l[i]? = some a) (hb : l[j]? = some b) (h : name a = name b) :
    i = j := by
  obtain ⟨hlt, -⟩ := List.getElem?_eq_some_iff.mp ha
  refine (List.getElem?_inj (by simpa using hlt) hdistinct).mp ?_
  rw [List.getElem?_map, List.getElem?_map, ha, hb, Option.map_some, Option.map_some, h]

/-- The names around an enumeration and its own are without dots. -/
theorem undotted_of_find? (hfile : file.IsUnambiguous) (hsiblings : file.Siblings enums messages)
    (h : place.find? enums messages = some (path, e)) :
    ∀ name ∈ path ++ [e.name], '.' ∉ name.toList := by
  induction place generalizing enums messages path with
  | enumeration i =>
      obtain ⟨he, rfl⟩ := find?_enumeration h
      intro name hname
      rw [List.nil_append, List.mem_singleton] at hname
      exact hname ▸ (hfile _ _ hsiblings).enums_undotted e (List.mem_of_getElem? he)
  | inside i place ih =>
      obtain ⟨m, inner, hm, hinner, rfl⟩ := find?_inside h
      have hmem := List.mem_of_getElem? hm
      intro name hname
      rcases List.mem_cons.mp hname with rfl | hname
      · exact (hfile _ _ hsiblings).messages_undotted m hmem
      · exact ih (hsiblings.inside hmem) hinner name hname

/-- Names next to each other are different, so the names on the way lead to one place only. -/
theorem eq_of_names_eq (hfile : file.IsUnambiguous) (hsiblings : file.Siblings enums messages)
    (h : place.find? enums messages = some (path, e))
    (hother : other.find? enums messages = some (otherPath, otherEnum))
    (hnames : path ++ [e.name] = otherPath ++ [otherEnum.name]) : place = other := by
  induction place generalizing other enums messages path otherPath with
  | enumeration i =>
      obtain ⟨he, rfl⟩ := find?_enumeration h
      cases other with
      | enumeration j =>
          obtain ⟨hotherEnum, rfl⟩ := find?_enumeration hother
          have hname : e.name = otherEnum.name := by simpa using hnames
          rw [position_eq (hfile _ _ hsiblings).enums_distinct he hotherEnum hname]
      | inside j other =>
          obtain ⟨m, inner, -, -, rfl⟩ := find?_inside hother
          simp at hnames
  | inside i place ih =>
      obtain ⟨m, inner, hm, hinner, rfl⟩ := find?_inside h
      cases other with
      | enumeration j =>
          obtain ⟨-, rfl⟩ := find?_enumeration hother
          simp at hnames
      | inside j other =>
          obtain ⟨n, otherInner, hn, hotherInner, rfl⟩ := find?_inside hother
          obtain ⟨hname, hrest⟩ := List.cons.inj hnames
          obtain rfl := position_eq (hfile _ _ hsiblings).messages_distinct hm hn hname
          obtain rfl := Option.some.inj (hm.symm.trans hn)
          rw [ih (hsiblings.inside (List.mem_of_getElem? hm)) hinner hotherInner hrest]

end Place

end Descriptor

namespace Schema

variable {file : FileDescriptor}

theorem Enumeration.along_package (path : List String) (e : EnumDescriptor) :
    Enumeration.along (dotted file.packagePath) (path, e)
      = ⟨file.enumName path e, e.values.map fun v => ⟨v.label, v.number⟩⟩ := by
  rw [← name_ofDescriptor, along, ← dotted_append]
  rfl

theorem map_some_name_enumsOf (file : FileDescriptor) :
    ((enumsOf file).map Enumeration.name).map some
      = (placesOf file.enums file.messages).map fun place =>
          (file.enumAt? place).map fun found => file.enumName found.1 found.2 := by
  have hname : some ∘ Enumeration.name = Option.map Enumeration.name ∘ some := rfl
  rw [List.map_map, hname, ← List.map_map, map_some_enumsOf, List.map_map]
  refine List.map_congr_left fun place _ => ?_
  rw [Function.comp, Option.map_map]
  refine congrArg (Option.map · _) (funext fun (path, e) => ?_)
  exact congrArg Enumeration.name (Enumeration.along_package path e)

/-- Where no two names meet, full names are different. -/
theorem nodup_name_enumsOf (hfile : file.IsUnambiguous) :
    ((enumsOf file).map Enumeration.name).Nodup := by
  rw [← List.nodup_map_iff fun _ _ => Option.some.inj, map_some_name_enumsOf]
  refine List.Nodup.map_on (fun place hplace other hother heq => ?_)
    ((Place.pairwise_placesOf _ _).imp Place.Before.ne)
  obtain ⟨⟨path, e⟩, hfound⟩ := Option.isSome_iff_exists.mp (Place.mem_placesOf.mp hplace)
  obtain ⟨⟨otherPath, otherEnum⟩, hotherFound⟩ :=
    Option.isSome_iff_exists.mp (Place.mem_placesOf.mp hother)
  unfold FileDescriptor.enumAt? at heq
  rw [hfound, hotherFound] at heq
  -- the package is the same, so what follows it is
  have hrest : dotted (path ++ [e.name]) = dotted (otherPath ++ [otherEnum.name]) := by
    have h : file.enumName path e = file.enumName otherPath otherEnum := Option.some.inj heq
    unfold FileDescriptor.enumName at h
    rw [List.append_assoc, List.append_assoc, dotted_append, dotted_append file.packagePath] at h
    exact (String.append_right_inj _).mp h
  exact Place.eq_of_names_eq hfile .outermost hfound hotherFound
    (dotted_inj (Place.undotted_of_find? hfile .outermost hfound)
      (Place.undotted_of_find? hfile .outermost hotherFound) hrest)

/-- **The enumerations of a file.**  The model lists the enumeration at each place of the file
once and in the order of places: under the package, the names around it and its own, and with its
numbers as declared.  If names have no dots, and are different next to each other, then all full
names are different, and the registry of the file keeps every enumeration. -/
theorem enumerations_by_place (file : FileDescriptor) :
    (∃ places : List Place, places.Pairwise Place.Before ∧ places.Nodup
      ∧ (∀ place, place ∈ places ↔ (file.enumAt? place).isSome)
      ∧ (File.ofDescriptor file).enums.map some
        = places.map fun place => (file.enumAt? place).map fun (path, e) =>
            ⟨file.enumName path e, e.values.map fun v => ⟨v.label, v.number⟩⟩)
    ∧ (file.IsUnambiguous →
        ((File.ofDescriptor file).enums.map Enumeration.name).Nodup
          ∧ (Registry.ofFiles [File.ofDescriptor file]).enums = (File.ofDescriptor file).enums) := by
  refine ⟨⟨placesOf file.enums file.messages, Place.pairwise_placesOf _ _,
    (Place.pairwise_placesOf _ _).imp Place.Before.ne, fun _ => Place.mem_placesOf, ?_⟩, ?_⟩
  · refine (map_some_enumsOf file).trans (List.map_congr_left fun place _ => ?_)
    exact congrArg (Option.map · _) (funext fun (path, e) => Enumeration.along_package path e)
  · intro hfile
    have hdistinct := nodup_name_enumsOf hfile
    have hall : [File.ofDescriptor file].flatMap File.enums = enumsOf file :=
      List.flatMap_singleton File.enums (File.ofDescriptor file)
    exact ⟨hdistinct, (Registry.enums_ofFiles (hall ▸ hdistinct)).trans hall⟩

/-- A message that declares enumerations with these names. -/
def declaringMessage (name : String) (enums : List String) (nested : List MessageDescriptor) :
    MessageDescriptor :=
  .around name nested (enums.map fun e => EnumDescriptor.make e [.make "OFF" 0, .make "ON" 1])

/-- A file that declares enumerations of the same names at several depths. -/
def nestedFile : FileDescriptor :=
  .make "plant.proto" (some "plant.v1")
    [declaringMessage "Pump" ["Mode"]
        [declaringMessage "Valve" ["State", "Mode"] [], declaringMessage "Motor" ["Mode"] []],
      declaringMessage "Tank" [] [declaringMessage "Valve" ["State"] []]]
    [.make "Mode" []]

theorem isUnambiguous_nestedFile : nestedFile.IsUnambiguous := by
  have hflat : ∀ m ∈ nestedFile.messages, ∀ n ∈ m.nested, n.nested = [] := by decide
  have hinside : ∀ m ∈ nestedFile.messages, AreToldApart m.enums m.nested
      ∧ ∀ n ∈ m.nested, AreToldApart n.enums [] := by decide
  intro enums messages h
  rcases h.of_shallow hflat with ⟨rfl, rfl⟩ | ⟨m, hm, rfl, rfl⟩ | ⟨m, hm, n, hn, rfl, rfl⟩
  · decide
  · exact (hinside m hm).1
  · exact (hinside m hm).2 n hn

theorem enumerations_by_place_nested :
    nestedFile.IsUnambiguous
      ∧ nestedFile.enumAt? (.inside 0 (.inside 1 (.enumeration 0)))
        = some (["Pump", "Motor"], .make "Mode" [.make "OFF" 0, .make "ON" 1])
      ∧ (File.ofDescriptor nestedFile).enums.map Enumeration.name
        = [".plant.v1.Mode", ".plant.v1.Pump.Mode", ".plant.v1.Pump.Valve.State",
          ".plant.v1.Pump.Valve.Mode", ".plant.v1.Pump.Motor.Mode", ".plant.v1.Tank.Valve.State"]
      ∧ ((File.ofDescriptor nestedFile).enums.map Enumeration.name).Nodup
      ∧ (Registry.ofFiles [File.ofDescriptor nestedFile]).enums
        = (File.ofDescriptor nestedFile).enums := by
  obtain ⟨-, hkept⟩ := enumerations_by_place nestedFile
  exact ⟨isUnambiguous_nestedFile, rfl, by decide +kernel, hkept isUnambiguous_nestedFile⟩

end Schema

end DeviceGen
