import Mathlib.Data.List.Forall2

/-! Computations that stop at the first failure, and what their success says. -/
namespace ReplicateOnTag.FirstFailure

def require (condition : Prop) [Decidable condition] (failure : ε) : Except ε Unit :=
  if condition then .ok () else .error failure

/-- Reads the items one after the other. -/
def each (read : α → Except ε β) : List α → Except ε (List β)
  | [] => .ok []
  | first :: rest => (read first).bind fun value =>
      (each read rest).map fun values => value :: values

theorem bind_eq_ok {first : Except ε α} {next : α → Except ε β} {result : β} :
    first.bind next = .ok result ↔ ∃ value, first = .ok value ∧ next value = .ok result := by
  cases first with
  | error failure =>
    constructor
    · intro same
      cases same
    · rintro ⟨_, same, _⟩
      cases same
  | ok value =>
    constructor
    · intro same
      exact ⟨value, rfl, same⟩
    · rintro ⟨_, same, later⟩
      cases same
      exact later

theorem map_eq_ok {first : Except ε α} {f : α → β} {result : β} :
    first.map f = .ok result ↔ ∃ value, first = .ok value ∧ f value = result := by
  cases first with
  | error failure =>
    constructor
    · intro same
      cases same
    · rintro ⟨_, same, _⟩
      cases same
  | ok value =>
    constructor
    · intro same
      exact ⟨value, rfl, Except.ok.inj same⟩
    · rintro ⟨_, same, rfl⟩
      cases same
      rfl

theorem toOption_eq_some {outcome : Except ε α} {value : α} : outcome.toOption = some value ↔
    outcome = .ok value := by
  cases outcome with
  | error failure => exact ⟨nofun, nofun⟩
  | ok other => exact ⟨fun same => congrArg Except.ok (Option.some.inj same), fun same =>
      congrArg some (Except.ok.inj same)⟩

theorem require_eq_ok {condition : Prop} [Decidable condition] {failure : ε} {done : Unit} :
    require condition failure = .ok done ↔ condition := by
  rw [require]
  split
  · rename_i holds
    exact ⟨fun _ => holds, fun _ => rfl⟩
  · rename_i fails
    exact ⟨nofun, fun holds => absurd holds fails⟩

/-- All of the items are read when there is no failure, and in order. -/
theorem each_eq_ok {read : α → Except ε β} {items : List α} {values : List β} :
    each read items = .ok values ↔
      List.Forall₂ (fun item value => read item = .ok value) items values := by
  induction items generalizing values with
  | nil =>
    rw [List.forall₂_nil_left_iff, each, Except.ok.injEq]
    exact eq_comm
  | cons first rest ih =>
    rw [each, bind_eq_ok]
    constructor
    · rintro ⟨value, own, more⟩
      obtain ⟨later, others, rfl⟩ := map_eq_ok.mp more
      exact .cons own (ih.mp others)
    · intro reads
      cases reads with
      | cons own others => exact ⟨_, own, map_eq_ok.mpr ⟨_, ih.mpr others, rfl⟩⟩

theorem exists_of_mem {related : α → β → Prop} {items : List α} {values : List β} {item : α}
    (all : List.Forall₂ related items values) (member : item ∈ items) : ∃ value ∈ values,
      related item value := by
  induction all with
  | nil => cases member
  | cons own _ ih =>
    rcases List.mem_cons.mp member with rfl | later
    · exact ⟨_, List.mem_cons_self, own⟩
    · obtain ⟨value, listed, own⟩ := ih later
      exact ⟨value, List.mem_cons_of_mem _ listed, own⟩

/-- What is related to a flattened list falls into one part for each of its lists. -/
theorem forall₂_flatten_iff {related : α → β → Prop} {tables : List (List α)} {values : List β} :
    List.Forall₂ related tables.flatten values ↔
      ∃ parts, List.Forall₂ (List.Forall₂ related) tables parts ∧ parts.flatten = values := by
  constructor
  · intro all
    induction tables generalizing values with
    | nil =>
      cases all
      exact ⟨[], .nil, rfl⟩
    | cons first rest ih =>
      rw [List.flatten_cons] at all
      have flipped := all.flip
      have front := (List.forall₂_take_append values first rest.flatten flipped).flip
      have back := (List.forall₂_drop_append values first rest.flatten flipped).flip
      obtain ⟨parts, others, joined⟩ := ih back
      refine ⟨values.take first.length :: parts, .cons front others, ?_⟩
      rw [List.flatten_cons, joined, List.take_append_drop]
  · rintro ⟨parts, all, rfl⟩
    exact List.rel_flatten all

end ReplicateOnTag.FirstFailure
