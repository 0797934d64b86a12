import Mathlib.Data.List.Nodup
import Mathlib.Logic.Function.Basic
import Mathlib.Logic.Relation

/-! Announcers that sweep the items listed on a shared board: each skips what was
suppressed when it began or is settled by now, and marks what it announced. An
item whose mark was there when a sweep began is not announced by that sweep. -/
namespace ReplicateOnTag.AnnounceOnce

/-- How the content of the board is read. -/
structure Board (α : Type u) (J : Type v) where
  suppressed : α → List J
  listed : α → J → Prop
  settled : α → J → Prop

/-- An announcer, by what it has read and what it has still to look at. -/
inductive Announcer (R : Type u) (J : Type v) where
  | idle
  | begun (suppressed : List J)
  | looking (suppressed : List J) (todo : List R)
  | marking (suppressed : List J) (item : J) (todo : List R)
  | through

/-- What is on record of the sweeps. -/
inductive Note (κ : Type u) (R : Type v) (J : Type w) where
  | began (k : κ) (suppressed : List J)
  | read (k : κ) (todo : List R)
  | announced (k : κ) (item : J)
  | marked (k : κ) (item : J)

namespace Announcer

def todo : Announcer R J → List R
  | .looking _ todo | .marking _ _ todo => todo
  | _ => []

/-- The ids an announcer may still put a mark or an announcement on. -/
def ids (ident : R → J) : Announcer R J → List J
  | .marking _ item todo => item :: todo.map ident
  | announcer => announcer.todo.map ident

/-- The items it takes for suppressed, and the one it is about to mark. -/
def held : Announcer R J → List J
  | .begun suppressed | .looking suppressed _ => suppressed
  | .marking suppressed item _ => item :: suppressed
  | _ => []

/-- It has read the list, or given up. -/
def Reading : Announcer R J → Prop
  | .idle | .begun _ => False
  | _ => True

end Announcer

def Note.announcedBy [DecidableEq κ] (k : κ) : Note κ R J → Option J
  | .announced other item => if other = k then some item else none
  | _ => none

/-- The announcements of one sweep, in order. -/
def announcedBy [DecidableEq κ] (k : κ) (log : List (Note κ R J)) : List J :=
  log.filterMap (Note.announcedBy k)

/-- The board, the ids that can no longer be listed anew, and the sweeps. -/
structure World (α : Type t) (R : Type u) (J : Type v) (κ : Type w) where
  content : α
  issued : J → Prop
  announcers : κ → Announcer R J
  log : List (Note κ R J)

section Steps
variable {α : Type t} {R : Type u} {J : Type v} {κ : Type w} [DecidableEq κ]

/-- Nothing is left to announce about the item, or its mark is there. -/
def Hushed (board : Board α J) (content : α) (item : J) : Prop :=
  item ∈ board.suppressed content ∨ board.settled content item ∨ ¬ board.listed content item

/-- What a write of anyone may do: an issued item that has left the list stays
away, and its mark is dropped only when it is settled or has left. -/
structure Proceeds (board : Board α J) (before after : α) (issued later : J → Prop) : Prop where
  issues : ∀ item, issued item → later item
  lists : ∀ item, board.listed after item → later item
  leaves : ∀ item, issued item → board.listed after item → board.listed before item
  settles : ∀ item, board.settled before item → board.settled after item
  hushes : ∀ item, issued item → Hushed board before item → Hushed board after item

variable (board : Board α J) (ident : R → J) (due : κ → R → Prop)

inductive Step : World α R J κ → World α R J κ → Prop where
  | advance (proceeds : Proceeds board world.content content world.issued issued) :
      Step world { world with content, issued }
  | quit (k : κ) (early : world.announcers k = .idle ∨
      ∃ suppressed, world.announcers k = .begun suppressed) :
      Step world { world with announcers := Function.update world.announcers k .through }
  | begin (k : κ) (idle : world.announcers k = .idle) :
      Step world { world with
        announcers := Function.update world.announcers k (.begun (board.suppressed world.content))
        log := world.log ++ [.began k (board.suppressed world.content)] }
  | read {suppressed : List J} {todo : List R} (k : κ)
      (begun : world.announcers k = .begun suppressed)
      (listed : ∀ r ∈ todo, board.listed world.content (ident r))
      (distinct : (todo.map ident).Nodup) :
      Step world { world with
        announcers := Function.update world.announcers k (.looking suppressed todo)
        log := world.log ++ [.read k todo] }
  | skip {suppressed : List J} {r : R} {todo : List R} (k : κ)
      (looking : world.announcers k = .looking suppressed (r :: todo))
      (excused : ident r ∈ suppressed ∨ board.settled world.content (ident r) ∨ ¬ due k r) :
      Step world { world with
        announcers := Function.update world.announcers k (.looking suppressed todo) }
  | announce {suppressed : List J} {r : R} {todo : List R} (k : κ)
      (looking : world.announcers k = .looking suppressed (r :: todo))
      (fresh : ident r ∉ suppressed) (open_ : ¬ board.settled world.content (ident r)) :
      Step world { world with
        announcers := Function.update world.announcers k (.marking suppressed (ident r) todo)
        log := world.log ++ [.announced k (ident r)] }
  | mark {suppressed : List J} {item : J} {todo : List R} {content : α} {more : List J} (k : κ)
      (marking : world.announcers k = .marking suppressed item todo)
      (proceeds : Proceeds board world.content content world.issued world.issued)
      (lands : item ∈ board.suppressed content) (kept : suppressed ⊆ more)
      (only : more ⊆ item :: suppressed) :
      Step world { world with
        content
        announcers := Function.update world.announcers k (.looking more todo)
        log := world.log ++ [.marked k item] }
  | unmarked {suppressed : List J} {item : J} {todo : List R} (k : κ)
      (marking : world.announcers k = .marking suppressed item todo) :
      Step world { world with
        announcers := Function.update world.announcers k (.looking suppressed todo) }
  | finish {suppressed : List J} (k : κ) (swept : world.announcers k = .looking suppressed []) :
      Step world { world with announcers := Function.update world.announcers k .through }

def Reaches : World α R J κ → World α R J κ → Prop := Relation.ReflTransGen (Step board ident due)

/-- The announcer will not announce this item any more. -/
def Spared (content : α) (item : J) : Announcer R J → Prop
  | .idle | .through => True
  | .begun suppressed => item ∈ suppressed ∨ board.settled content item ∨
      ¬ board.listed content item
  | .looking suppressed todo | .marking suppressed _ todo =>
      item ∈ suppressed ∨ board.settled content item ∨ item ∉ todo.map ident

/-- The announcer takes the item for suppressed, or announces nothing any more. -/
def Keeps (item : J) : Announcer R J → Prop
  | .idle => False
  | .begun suppressed | .looking suppressed _ | .marking suppressed _ _ => item ∈ suppressed
  | .through => True

/-- What was suppressed when the sweep began is kept so, and not announced. -/
def Heeds (world : World α R J κ) (k : κ) : Prop :=
  ∀ suppressed, .began k suppressed ∈ world.log → ∀ item ∈ suppressed,
    Keeps item (world.announcers k) ∧ .announced k item ∉ world.log

/-- Nobody has begun. -/
structure Fresh (world : World α R J κ) : Prop where
  idle : ∀ k, world.announcers k = .idle
  log : world.log = []
  known : ∀ item, board.listed world.content item → world.issued item

/-- What is known of one sweep. -/
structure Swept (world : World α R J κ) (k : κ) : Prop where
  issued : ∀ item ∈ (world.announcers k).ids ident, world.issued item
  unbegun : world.announcers k = .idle → ∀ suppressed, .began k suppressed ∉ world.log
  unread : world.announcers k = .idle ∨ (∃ suppressed, world.announcers k = .begun suppressed) →
    announcedBy k world.log = []
  distinct : (announcedBy k world.log ++ (world.announcers k).todo.map ident).Nodup
  spared : ∀ earlier suppressed later, world.log = earlier ++ .began k suppressed :: later →
    ∀ other item, .marked other item ∈ earlier →
      Spared board ident world.content item (world.announcers k) ∧ item ∉ announcedBy k world.log

structure Sound (world : World α R J κ) : Prop where
  known : ∀ item, board.listed world.content item → world.issued item
  marked : ∀ k item, .marked k item ∈ world.log → world.issued item ∧
    Hushed board world.content item
  swept : ∀ k, Swept board ident world k

end Steps

section Logs
variable {R : Type u} {J : Type v} {κ : Type w} [DecidableEq κ]
  {log earlier later : List (Note κ R J)}

omit [DecidableEq κ] in
/-- A log that has grown by one note, split at some note. -/
theorem split_concat {note mark : Note κ R J} (same : log ++ [note] = earlier ++ mark :: later) :
    (later = [] ∧ note = mark ∧ log = earlier) ∨
      ∃ rest, later = rest ++ [note] ∧ log = earlier ++ mark :: rest := by
  rcases List.eq_nil_or_concat later with rfl | ⟨rest, last, rfl⟩
  · obtain ⟨front, ends⟩ := List.append_inj' same rfl
    exact .inl ⟨rfl, by simpa using ends, front⟩
  · have shape : log ++ [note] = (earlier ++ mark :: rest) ++ [last] := by simpa using same
    obtain ⟨front, ends⟩ := List.append_inj' shape rfl
    cases ends
    exact .inr ⟨rest, by simp, front⟩

theorem announcedBy_concat (k : κ) (log : List (Note κ R J)) (note : Note κ R J) :
    announcedBy k (log ++ [note]) = announcedBy k log ++ (note.announcedBy k).toList := by
  cases same : note.announcedBy k <;> simp [announcedBy, same]

theorem mem_announcedBy {k : κ} {item : J} : item ∈ announcedBy k log ↔
    .announced k item ∈ log := by
  simp only [announcedBy, List.mem_filterMap]
  constructor
  · rintro ⟨note, member, same⟩
    cases note with
    | announced other found =>
      simp only [Note.announcedBy] at same
      split at same
      · rename_i own
        cases same
        exact own ▸ member
      · cases same
    | began | read | marked => cases same
  · exact fun member => ⟨_, member, by simp [Note.announcedBy]⟩

end Logs

section Invariant
variable {α : Type t} {R : Type u} {J : Type v} {κ : Type w} [DecidableEq κ]
  {board : Board α J} {ident : R → J}
  {due : κ → R → Prop} {world next : World α R J κ} {k other : κ}

theorem Proceeds.refl (known : ∀ item, board.listed content item → issued item) :
    Proceeds board content content issued issued :=
  ⟨fun _ => id, known, fun _ _ => id, fun _ => id, fun _ _ => id⟩

theorem Spared.proceeds (proceeds : Proceeds board content after issued later) (out : issued item)
    {announcer : Announcer R J} (spared : Spared board ident content item announcer) :
    Spared board ident after item announcer := by
  cases announcer with
  | idle | through => trivial
  | begun suppressed =>
    exact spared.imp_right (Or.imp (proceeds.settles item) fun left found =>
      left (proceeds.leaves item out found))
  | looking suppressed todo | marking suppressed _ todo =>
    exact spared.imp_right (Or.imp_left (proceeds.settles item))

/-- A sweep that does not act sees the board advance and the log grow. -/
theorem Swept.still (sound : Sound board ident world) (k : κ)
    (same : next.announcers k = world.announcers k)
    (proceeds : Proceeds board world.content next.content world.issued next.issued)
    (grown : next.log = world.log ∨ ∃ note, next.log = world.log ++ [note] ∧
      note.announcedBy k = none ∧ ∀ suppressed, note ≠ .began k suppressed) :
    Swept board ident next k := by
  obtain ⟨issued, unbegun, unread, distinct, spared⟩ := sound.swept k
  have announced : announcedBy k next.log = announcedBy k world.log := by
    rcases grown with rest | ⟨note, rest, quiet, _⟩
    · rw [rest]
    · rw [rest, announcedBy_concat, quiet, Option.toList_none, List.append_nil]
  refine ⟨?_, ?_, ?_, ?_, ?_⟩
  · rw [same]
    exact fun item member => proceeds.issues item (issued item member)
  · intro idle suppressed member
    rw [same] at idle
    rcases grown with rest | ⟨note, rest, _, foreign⟩
    · exact unbegun idle suppressed (rest ▸ member)
    · rw [rest, List.mem_append, List.mem_singleton] at member
      exact member.elim (unbegun idle suppressed) fun own => foreign suppressed own.symm
  · rw [same, announced]
    exact unread
  · rw [same, announced]
    exact distinct
  · intro earlier suppressed later split other item member
    rw [same, announced]
    have before : ∃ rest, world.log = earlier ++ .began k suppressed :: rest := by
      rcases grown with rest | ⟨note, rest, _, foreign⟩
      · exact ⟨later, rest ▸ split⟩
      · rw [rest] at split
        rcases split_concat split with ⟨_, own, _⟩ | ⟨rest, _, before⟩
        · exact absurd own (foreign suppressed)
        · exact ⟨rest, before⟩
    obtain ⟨rest, before⟩ := before
    obtain ⟨kept, apart⟩ := spared earlier suppressed rest before other item member
    have out := (sound.marked other item (before ▸ List.mem_append_left _ member)).1
    exact ⟨kept.proceeds proceeds out, apart⟩

/-- One sweep acts, and the others stand still. -/
theorem Sound.acts (sound : Sound board ident world)
    (proceeds : Proceeds board world.content next.content world.issued next.issued)
    (others : ∀ j, j ≠ k → next.announcers j = world.announcers j)
    (grown : next.log = world.log ∨ ∃ note, next.log = world.log ++ [note] ∧
      (∀ j, j ≠ k → note.announcedBy j = none ∧ ∀ suppressed, note ≠ .began j suppressed) ∧
      ∀ j item, note = .marked j item → next.issued item ∧ Hushed board next.content item)
    (own : Swept board ident next k) : Sound board ident next where
  known := proceeds.lists
  marked := by
    intro j item member
    have before (member : .marked j item ∈ world.log) : next.issued item ∧
        Hushed board next.content item :=
      (sound.marked j item member).imp (proceeds.issues item)
        (proceeds.hushes item (sound.marked j item member).1)
    rcases grown with same | ⟨note, same, _, fresh⟩
    · exact before (same ▸ member)
    · rw [same, List.mem_append, List.mem_singleton] at member
      exact member.elim before fun last => fresh j item last.symm
  swept := by
    intro j
    by_cases acting : j = k
    · exact acting ▸ own
    · refine .still sound j (others j acting) proceeds (grown.imp_right ?_)
      rintro ⟨note, same, foreign, _⟩
      exact ⟨note, same, foreign j acting⟩

/-- A sweep that has read the list moves on. -/
theorem Swept.moves {announcer : Announcer R J} {more : List J} (swept : Swept board ident world k)
    (moved : next.announcers k = announcer) (reading : announcer.Reading)
    (grown : next.log = world.log ∨
      ∃ note, next.log = world.log ++ [note] ∧ ∀ suppressed, note ≠ .began k suppressed)
    (announced : announcedBy k next.log = announcedBy k world.log ++ more)
    (issued : ∀ item ∈ announcer.ids ident, next.issued item)
    (distinct : (announcedBy k world.log ++ more ++ announcer.todo.map ident).Nodup)
    (spared : ∀ item, (∃ other, .marked other item ∈ world.log) →
      Spared board ident world.content item (world.announcers k) →
        Spared board ident next.content item announcer ∧ item ∉ more) :
    Swept board ident next k := by
  refine ⟨?_, ?_, ?_, ?_, ?_⟩
  · rw [moved]
    exact issued
  · rw [moved]
    rintro rfl
    exact reading.elim
  · rw [moved]
    rintro (rfl | ⟨_, rfl⟩) <;> exact reading.elim
  · rw [moved, announced]
    exact distinct
  · rw [moved, announced]
    intro earlier suppressed later split other item member
    have before : ∃ rest, world.log = earlier ++ .began k suppressed :: rest := by
      rcases grown with same | ⟨note, same, foreign⟩
      · exact ⟨later, same ▸ split⟩
      · rw [same] at split
        rcases split_concat split with ⟨_, own, _⟩ | ⟨rest, _, before⟩
        · exact absurd own (foreign suppressed)
        · exact ⟨rest, before⟩
    obtain ⟨rest, before⟩ := before
    obtain ⟨kept, apart⟩ := swept.spared earlier suppressed rest before other item member
    obtain ⟨spares, fresh⟩ := spared item ⟨other, before ▸ List.mem_append_left _ member⟩ kept
    exact ⟨spares, List.not_mem_append apart fresh⟩

theorem sound_step (sound : Sound board ident world) (step : Step board ident due world next) :
    Sound board ident next := by
  have stays : Proceeds board world.content world.content world.issued
    world.issued := .refl sound.known
  have known : ∀ other item, .marked other item ∈ world.log → world.issued item :=
    fun other item member => (sound.marked other item member).1
  cases step with
  | advance proceeds =>
    refine ⟨proceeds.lists, fun k item member => ?_, fun k =>
      .still sound k rfl proceeds (.inl rfl)⟩
    obtain ⟨out, hushed⟩ := sound.marked k item member
    exact ⟨proceeds.issues item out, proceeds.hushes item out hushed⟩
  | quit k early =>
    refine sound.acts stays (fun j other => Function.update_of_ne other _ _) (.inl rfl)
      ((sound.swept k).moves (Function.update_self ..) trivial (.inl rfl)
        (List.append_nil _).symm ?_ ?_
        fun _ _ _ => ⟨trivial, List.not_mem_nil⟩)
    · simp [Announcer.ids, Announcer.todo]
    · simp [Announcer.todo, (sound.swept k).unread early]
  | begin k idle =>
    have fresh := (sound.swept k).unbegun idle
    have announced : announcedBy k
        (world.log ++ [.began k (board.suppressed world.content)]) = [] := by
      rw [announcedBy_concat, (sound.swept k).unread (.inl idle)]
      rfl
    refine sound.acts (k := k) stays (fun j other => Function.update_of_ne other _ _)
      (.inr ⟨_, rfl, ?_, nofun⟩)
      ⟨?_, ?_, ?_, ?_, ?_⟩
    · refine fun j other => ⟨rfl, fun suppressed same => other ?_⟩
      cases same
      rfl
    · simp [Announcer.ids, Announcer.todo]
    · simp
    · exact fun _ => announced
    · simp [announced, Announcer.todo]
    · intro earlier suppressed later split other item member
      simp only [Function.update_self, announced, List.not_mem_nil, not_false_eq_true, and_true]
      rcases split_concat split with ⟨_, _, same⟩ | ⟨rest, _, before⟩
      · exact (sound.marked other item (same ▸ member)).2
      · exact absurd (before ▸ List.mem_append_right _ List.mem_cons_self) (fresh suppressed)
  | @read _ suppressed todo k begun listed distinct =>
    have announced : announcedBy k (world.log ++ [.read k todo]) =
        announcedBy k world.log ++ [] := by
      rw [announcedBy_concat]
      rfl
    refine sound.acts stays (fun j other => Function.update_of_ne other _ _)
      (.inr ⟨_, rfl, fun _ _ => ⟨rfl, nofun⟩, nofun⟩)
      ((sound.swept k).moves (Function.update_self ..) trivial
        (.inr ⟨_, rfl, nofun⟩) announced ?_ ?_ ?_)
    · intro item member
      obtain ⟨r, place, rfl⟩ := List.mem_map.mp member
      exact sound.known _ (listed r place)
    · rw [(sound.swept k).unread (.inr ⟨suppressed, begun⟩)]
      exact distinct
    · rw [begun]
      refine fun item _ kept =>
        ⟨kept.imp_right (Or.imp_right fun left member => ?_), List.not_mem_nil⟩
      obtain ⟨r, place, rfl⟩ := List.mem_map.mp member
      exact left (listed r place)
  | @skip _ suppressed r todo k looking excused =>
    have swept := sound.swept k
    refine sound.acts stays (fun j other => Function.update_of_ne other _ _) (.inl rfl)
      (swept.moves (Function.update_self ..) trivial (.inl rfl) (List.append_nil _).symm ?_ ?_ ?_)
    · exact fun item member =>
        swept.issued item (by rw [looking]; exact List.mem_cons_of_mem _ member)
    · have distinct := swept.distinct
      rw [looking] at distinct
      rw [List.append_nil]
      exact distinct.sublist ((List.Sublist.refl _).append (List.sublist_cons_self _ _))
    · rw [looking]
      intro item _ kept
      exact ⟨kept.imp_right (Or.imp_right fun away member =>
        away (List.mem_cons_of_mem _ member)), List.not_mem_nil⟩
  | @announce _ suppressed r todo k looking fresh open_ =>
    have swept := sound.swept k
    have announced : announcedBy k (world.log ++ [.announced k (ident r)]) =
        announcedBy k world.log ++ [ident r] := by
      rw [announcedBy_concat]
      simp [Note.announcedBy]
    refine sound.acts stays (fun j other => Function.update_of_ne other _ _)
      (.inr ⟨_, rfl, fun j other => ⟨if_neg other.symm, nofun⟩, nofun⟩)
      (swept.moves (Function.update_self ..) trivial (.inr ⟨_, rfl, nofun⟩) announced ?_ ?_ ?_)
    · exact fun item member => swept.issued item (by rw [looking]; exact member)
    · have distinct := swept.distinct
      rw [looking] at distinct
      simpa [Announcer.todo] using distinct
    · rw [looking]
      intro item _ kept
      rcases kept with held | settled | away
      · exact ⟨.inl held, by rintro same; exact fresh (List.mem_singleton.mp same ▸ held)⟩
      · exact ⟨.inr (.inl settled), fun same => open_ (List.mem_singleton.mp same ▸ settled)⟩
      · exact ⟨.inr (.inr fun member => away (List.mem_cons_of_mem _ member)),
          fun same => away (List.mem_singleton.mp same ▸ List.mem_cons_self)⟩
  | @mark _ suppressed item todo content more k marking proceeds lands kept only =>
    have swept := sound.swept k
    have announced : announcedBy k (world.log ++ [.marked k item]) =
        announcedBy k world.log ++ [] := by
      rw [announcedBy_concat]
      rfl
    have own : world.issued item := swept.issued item (by rw [marking]; exact List.mem_cons_self)
    refine sound.acts proceeds (fun j other => Function.update_of_ne other _ _)
      (.inr ⟨_, rfl, fun _ _ => ⟨rfl, nofun⟩, ?_⟩)
      (swept.moves (Function.update_self ..) trivial (.inr ⟨_, rfl, nofun⟩) announced ?_ ?_ ?_)
    · rintro j other same
      cases same
      exact ⟨own, .inl lands⟩
    · exact fun other member =>
        swept.issued other (by rw [marking]; exact List.mem_cons_of_mem _ member)
    · have distinct := swept.distinct
      rw [marking] at distinct
      simpa [Announcer.todo] using distinct
    · rw [marking]
      intro other marked spared
      obtain ⟨by_, marked⟩ := marked
      refine ⟨?_, List.not_mem_nil⟩
      have before : Spared board ident world.content other (.looking suppressed todo :
        Announcer R J) := spared
      have later := before.proceeds proceeds (known by_ other marked)
      exact later.imp_left fun held => kept held
  | @unmarked _ suppressed item todo k marking =>
    have swept := sound.swept k
    refine sound.acts stays (fun j other => Function.update_of_ne other _ _) (.inl rfl)
      (swept.moves (Function.update_self ..) trivial (.inl rfl) (List.append_nil _).symm ?_ ?_ ?_)
    · exact fun other member =>
        swept.issued other (by rw [marking]; exact List.mem_cons_of_mem _ member)
    · have distinct := swept.distinct
      rw [marking] at distinct
      simpa [Announcer.todo] using distinct
    · rw [marking]
      exact fun _ _ spared => ⟨spared, List.not_mem_nil⟩
  | @finish _ suppressed k looking =>
    have swept := sound.swept k
    refine sound.acts stays (fun j other => Function.update_of_ne other _ _) (.inl rfl)
      (swept.moves (Function.update_self ..) trivial (.inl rfl) (List.append_nil _).symm ?_ ?_
        fun _ _ _ => ⟨trivial, List.not_mem_nil⟩)
    · simp [Announcer.ids, Announcer.todo]
    · have distinct := swept.distinct
      rw [looking] at distinct
      simpa [Announcer.todo] using distinct

theorem sound_fresh (fresh : Fresh board world) : Sound board ident world where
  known := fresh.known
  marked := by simp [fresh.log]
  swept k :=
    { issued := by simp [fresh.idle k, Announcer.ids, Announcer.todo]
      unbegun := by simp [fresh.log]
      unread := by simp [fresh.log, announcedBy]
      distinct := by simp [fresh.log, announcedBy, fresh.idle k, Announcer.todo]
      spared := by simp [fresh.log] }

theorem sound_reaches (fresh : Fresh board first) (path : Reaches board ident due first world) :
    Sound board ident world := by
  induction path with
  | refl => exact sound_fresh fresh
  | tail _ step ih => exact sound_step ih step

omit [DecidableEq κ] in
/-- A sweep that does not begin goes on to keep what it kept. -/
theorem Heeds.moves (heeds : Heeds world k) {announcer : Announcer R J}
    (moved : next.announcers k = announcer)
    (grown : next.log = world.log ∨ ∃ note, next.log = world.log ++ [note] ∧
      ∀ suppressed, note ≠ .began k suppressed)
    (keeps : ∀ item, Keeps item (world.announcers k) → Keeps item announcer)
    (fresh : ∀ item, Keeps item (world.announcers k) → .announced k item ∉ world.log →
      .announced k item ∉ next.log) :
    Heeds next k := by
  intro suppressed began item held
  have before : .began k suppressed ∈ world.log := by
    rcases grown with same | ⟨note, same, foreign⟩
    · exact same ▸ began
    · rw [same, List.mem_append, List.mem_singleton] at began
      exact began.resolve_right fun own => foreign suppressed own.symm
  obtain ⟨kept, unannounced⟩ := heeds suppressed before item held
  exact ⟨moved ▸ keeps item kept, fresh item kept unannounced⟩

omit [DecidableEq κ] in
theorem Heeds.still (heeds : Heeds world k) (same : next.announcers k = world.announcers k)
    (grown : next.log = world.log ∨ ∃ note, next.log = world.log ++ [note] ∧
      (∀ suppressed, note ≠ .began k suppressed) ∧
        ∀ item, note ≠ .announced k item) : Heeds next k := by
  refine heeds.moves same (grown.imp_right fun ⟨note, same, foreign, _⟩ =>
    ⟨note, same, foreign⟩) (fun _ => id) ?_
  intro item _ unannounced member
  rcases grown with same | ⟨note, same, _, quiet⟩
  · exact unannounced (same ▸ member)
  · rw [same, List.mem_append, List.mem_singleton] at member
    exact member.elim unannounced fun own => quiet item own.symm

theorem heeds_step (sound : Sound board ident world) (heeds : ∀ k, Heeds world k)
    (step : Step board ident due world next) (j : κ) : Heeds next j := by
  cases step with
  | advance proceeds => exact (heeds j).still rfl (.inl rfl)
  | quit k early =>
    by_cases acting : j = k
    · subst acting
      exact (heeds j).moves (Function.update_self ..) (.inl rfl) (fun _ _ => trivial) fun _ _ => id
    · exact (heeds j).still (Function.update_of_ne acting ..) (.inl rfl)
  | begin k idle =>
    by_cases acting : j = k
    · subst acting
      intro suppressed began item held
      rw [List.mem_append, List.mem_singleton] at began
      cases began.resolve_left ((sound.swept j).unbegun idle suppressed)
      refine ⟨by simpa [Keeps] using held, fun announced => ?_⟩
      have nothing := mem_announcedBy.mpr announced
      rw [announcedBy_concat, (sound.swept j).unread (.inl idle)] at nothing
      cases nothing
    · refine (heeds j).still (Function.update_of_ne acting ..)
        (.inr ⟨_, rfl, fun suppressed same => acting ?_, nofun⟩)
      cases same
      rfl
  | @read _ suppressed todo k begun listed distinct =>
    by_cases acting : j = k
    · subst acting
      exact (heeds j).moves (Function.update_self ..) (.inr ⟨_, rfl, nofun⟩)
        (by rw [begun]; exact fun _ => id)
        fun _ _ unannounced => by simpa using unannounced
    · exact (heeds j).still (Function.update_of_ne acting ..) (.inr ⟨_, rfl, nofun, nofun⟩)
  | @skip _ suppressed r todo k looking excused =>
    by_cases acting : j = k
    · subst acting
      exact (heeds j).moves (Function.update_self ..) (.inl rfl)
        (by rw [looking]; exact fun _ => id) fun _ _ => id
    · exact (heeds j).still (Function.update_of_ne acting ..) (.inl rfl)
  | @announce _ suppressed r todo k looking fresh open_ =>
    by_cases acting : j = k
    · subst acting
      refine (heeds j).moves (Function.update_self ..) (.inr ⟨_, rfl, nofun⟩)
        (by rw [looking]; exact fun _ => id) ?_
      rw [looking]
      rintro item held unannounced announced
      rw [List.mem_append, List.mem_singleton] at announced
      cases announced.resolve_left unannounced
      exact fresh held
    · refine (heeds j).still (Function.update_of_ne acting ..)
        (.inr ⟨_, rfl, nofun, fun item same => acting ?_⟩)
      cases same
      rfl
  | @mark _ suppressed item todo content more k marking proceeds lands kept only =>
    by_cases acting : j = k
    · subst acting
      exact (heeds j).moves (Function.update_self ..) (.inr ⟨_, rfl, nofun⟩)
        (by rw [marking]; exact fun _ held => kept held) fun _ _ unannounced => by
          simpa using unannounced
    · exact (heeds j).still (Function.update_of_ne acting ..) (.inr ⟨_, rfl, nofun, nofun⟩)
  | @unmarked _ suppressed item todo k marking =>
    by_cases acting : j = k
    · subst acting
      exact (heeds j).moves (Function.update_self ..) (.inl rfl)
        (by rw [marking]; exact fun _ => id) fun _ _ => id
    · exact (heeds j).still (Function.update_of_ne acting ..) (.inl rfl)
  | @finish _ suppressed k looking =>
    by_cases acting : j = k
    · subst acting
      exact (heeds j).moves (Function.update_self ..) (.inl rfl) (fun _ _ => trivial) fun _ _ => id
    · exact (heeds j).still (Function.update_of_ne acting ..) (.inl rfl)

theorem heeds_reaches (fresh : Fresh board first)
    (path : Reaches board ident due first world) (k : κ) :
    Heeds world k := by
  induction path generalizing k with
  | refl => simp [Heeds, fresh.log]
  | tail path step ih => exact heeds_step (sound_reaches fresh path) ih step k

/-- What was suppressed when a sweep began, or had been marked by then, is not
announced by that sweep, and no sweep announces anything twice. -/
theorem announced_once (fresh : Fresh board first)
    (path : Reaches board ident due first world) (k : κ) :
    (∀ suppressed, .began k suppressed ∈ world.log → ∀ item ∈ suppressed,
      .announced k item ∉ world.log) ∧
    (∀ earlier suppressed later, world.log = earlier ++ .began k suppressed :: later →
      ∀ other item, .marked other item ∈ earlier → .announced k item ∉ world.log) ∧
    (announcedBy k world.log).Nodup := by
  have swept := (sound_reaches fresh path).swept k
  refine ⟨fun suppressed began item held =>
    (heeds_reaches fresh path k suppressed began item held).2,
    fun earlier suppressed later split other item member announced =>
      ?_, swept.distinct.of_append_left⟩
  exact (swept.spared earlier suppressed later split other item member).2
    (mem_announcedBy.mpr announced)

end Invariant

section Sweeping
variable {α : Type t} {R : Type u} {J : Type v} {κ : Type w} [DecidableEq κ]
  {board : Board α J} {ident : R → J}
  {due : κ → R → Prop} {world next : World α R J κ} {k : κ}

/-- The item was suppressed when the sweep began, or announced by it, or is settled. -/
def Excused (board : Board α J) (world : World α R J κ) (k : κ) (item : J) : Prop :=
  (∃ suppressed, .began k suppressed ∈ world.log ∧ item ∈ suppressed) ∨
    .announced k item ∈ world.log ∨
    board.settled world.content item

/-- What has become of the items a sweep has read. -/
structure Tally (board : Board α J) (ident : R → J) (due : κ → R → Prop)
    (world : World α R J κ) (k : κ) :
    Prop where
  held : ∀ item ∈ (world.announcers k).held, Excused board world k item
  unread : ¬ (world.announcers k).Reading → ∀ todo, .read k todo ∉ world.log
  read : ∀ todo, .read k todo ∈ world.log → ∀ r ∈ todo, due k r →
    r ∈ (world.announcers k).todo ∨ Excused board world k (ident r)

omit [DecidableEq κ] in
theorem Excused.grows (settles : ∀ item, board.settled world.content item →
    board.settled next.content item)
    (grown : world.log ⊆ next.log) (excused : Excused board world k item) :
    Excused board next k item := by
  rcases excused with ⟨suppressed, began, held⟩ | announced | settled
  · exact .inl ⟨suppressed, grown began, held⟩
  · exact .inr (.inl (grown announced))
  · exact .inr (.inr (settles item settled))

omit [DecidableEq κ] in
/-- A sweep that has read no new list holds on to what it has to do, or has it answered. -/
theorem Tally.moves (tally : Tally board ident due world k) {announcer : Announcer R J}
    (settles : ∀ item, board.settled world.content item → board.settled next.content item)
    (grown : next.log = world.log ∨ ∃ note, next.log = world.log ++ [note] ∧
      ∀ todo, note ≠ .read k todo)
    (moved : next.announcers k = announcer)
    (held : ∀ item ∈ announcer.held, item ∈ (world.announcers k).held ∨ Excused board next k item)
    (reading : (world.announcers k).Reading → announcer.Reading)
    (todo : ∀ r ∈ (world.announcers k).todo, due k r → r ∈ announcer.todo ∨
      Excused board next k (ident r)) :
    Tally board ident due next k := by
  have more : world.log ⊆ next.log := by
    rcases grown with same | ⟨note, same, _⟩
    · exact same ▸ List.Subset.refl _
    · exact same ▸ List.subset_append_left _ _
  have listed : ∀ todo, .read k todo ∈ next.log → .read k todo ∈ world.log := by
    intro todo member
    rcases grown with same | ⟨note, same, foreign⟩
    · exact same ▸ member
    · rw [same, List.mem_append, List.mem_singleton] at member
      exact member.resolve_right fun own => foreign todo own.symm
  refine ⟨?_, ?_, ?_⟩
  · rw [moved]
    exact fun item member => (held item member).elim (fun before =>
      (tally.held item before).grows settles more) id
  · rw [moved]
    exact fun idle todo member =>
      tally.unread (fun before => idle (reading before)) todo (listed todo member)
  · rw [moved]
    intro list member r place owed
    rcases tally.read list (listed list member) r place owed with left | excused
    · exact todo r left owed
    · exact .inr (excused.grows settles more)

omit [DecidableEq κ] in
theorem Tally.still (tally : Tally board ident due world k)
    (same : next.announcers k = world.announcers k)
    (settles : ∀ item, board.settled world.content item → board.settled next.content item)
    (grown : next.log = world.log ∨ ∃ note, next.log = world.log ++ [note] ∧
      ∀ todo, note ≠ .read k todo) :
    Tally board ident due next k :=
  tally.moves settles grown same (fun _ => .inl) id fun _ member _ => .inl member

theorem tally_step (tally : ∀ k, Tally board ident due world k)
    (step : Step board ident due world next) (j : κ) :
    Tally board ident due next j := by
  have stays : ∀ item, board.settled world.content item →
    board.settled world.content item := fun _ => id
  cases step with
  | advance proceeds => exact (tally j).still rfl proceeds.settles (.inl rfl)
  | quit k early =>
    by_cases acting : j = k
    · subst acting
      refine (tally j).moves stays (.inl rfl) (Function.update_self ..) nofun (fun _ =>
        trivial) fun r member _ => ?_
      rcases early with idle | ⟨suppressed, begun⟩
      · simp [idle, Announcer.todo] at member
      · simp [begun, Announcer.todo] at member
    · exact (tally j).still (Function.update_of_ne acting ..) stays (.inl rfl)
  | begin k idle =>
    by_cases acting : j = k
    · subst acting
      refine (tally j).moves stays (.inr ⟨_, rfl, nofun⟩) (Function.update_self ..) ?_
        (by simp [idle, Announcer.Reading]) ?_
      · exact fun item member => .inr (.inl ⟨_, List.mem_append_right _ List.mem_cons_self, member⟩)
      · simp [idle, Announcer.todo]
    · exact (tally j).still (Function.update_of_ne acting ..) stays (.inr ⟨_, rfl, nofun⟩)
  | @read _ suppressed todo k begun listed distinct =>
    by_cases acting : j = k
    · subst acting
      have unread := (tally j).unread (by simp [begun, Announcer.Reading])
      refine ⟨?_, ?_, ?_⟩
      · intro item member
        have before := (tally j).held item
        rw [begun] at before
        simp only [Function.update_self] at member
        exact (before member).grows stays (List.subset_append_left _ _)
      · simp [Announcer.Reading]
      · intro list member r place _
        rw [List.mem_append, List.mem_singleton] at member
        cases member.resolve_left (unread list)
        exact .inl (by simpa [Announcer.todo] using place)
    · refine (tally j).still (Function.update_of_ne acting ..) stays
        (.inr ⟨_, rfl, fun list same => acting ?_⟩)
      cases same
      rfl
  | @skip _ suppressed r todo k looking excused =>
    by_cases acting : j = k
    · subst acting
      refine (tally j).moves stays (.inl rfl) (Function.update_self ..) ?_ (fun _ => trivial) ?_
      · rw [looking]
        exact fun item => .inl
      · rw [looking]
        intro other member owed
        rcases List.mem_cons.mp member with rfl | later
        · refine .inr ?_
          rcases excused with held | settled | idle
          · have excused := (tally j).held (ident other)
            rw [looking] at excused
            exact excused held
          · exact .inr (.inr settled)
          · exact absurd owed idle
        · exact .inl later
    · exact (tally j).still (Function.update_of_ne acting ..) stays (.inl rfl)
  | @announce _ suppressed r todo k looking fresh open_ =>
    by_cases acting : j = k
    · subst acting
      refine (tally j).moves stays (.inr ⟨_, rfl, nofun⟩) (Function.update_self ..)
        ?_ (fun _ => trivial) ?_
      · rw [looking]
        intro item member
        rcases List.mem_cons.mp member with rfl | before
        · exact .inr (.inr (.inl (by simp)))
        · exact .inl before
      · rw [looking]
        intro other member _
        rcases List.mem_cons.mp member with rfl | later
        · exact .inr (.inr (.inl (by simp)))
        · exact .inl later
    · exact (tally j).still (Function.update_of_ne acting ..) stays (.inr ⟨_, rfl, nofun⟩)
  | @mark _ suppressed item todo content more k marking proceeds lands kept only =>
    by_cases acting : j = k
    · subst acting
      refine (tally j).moves proceeds.settles (.inr ⟨_, rfl, nofun⟩) (Function.update_self ..)
        ?_ (fun _ => trivial) ?_
      · rw [marking]
        exact fun other member => .inl (only member)
      · rw [marking]
        exact fun other member _ => .inl member
    · exact (tally j).still (Function.update_of_ne acting ..) proceeds.settles
        (.inr ⟨_, rfl, nofun⟩)
  | @unmarked _ suppressed item todo k marking =>
    by_cases acting : j = k
    · subst acting
      refine (tally j).moves stays (.inl rfl) (Function.update_self ..) ?_ (fun _ => trivial) ?_
      · rw [marking]
        exact fun other member => .inl (List.mem_cons_of_mem _ member)
      · rw [marking]
        exact fun other member _ => .inl member
    · exact (tally j).still (Function.update_of_ne acting ..) stays (.inl rfl)
  | @finish _ suppressed k looking =>
    by_cases acting : j = k
    · subst acting
      refine (tally j).moves stays (.inl rfl) (Function.update_self ..) nofun (fun _ => trivial) ?_
      simp [looking, Announcer.todo]
    · exact (tally j).still (Function.update_of_ne acting ..) stays (.inl rfl)

/-- A sweep that is through has an answer for every item it read that was due. -/
theorem swept_through (fresh : Fresh board first) (path : Reaches board ident due first world)
    (through : world.announcers k = .through) (read : .read k todo ∈ world.log)
    (member : r ∈ todo) (owed : due k r) :
    Excused board world k (ident r) := by
  have tally : ∀ k, Tally board ident due world k := by
    clear through read
    induction path with
    | refl =>
      intro k
      refine ⟨?_, ?_, ?_⟩ <;> simp [fresh.idle k, fresh.log, Announcer.held]
    | tail _ step ih => exact tally_step ih step
  have left := (tally k).read todo read r member owed
  rw [through] at left
  exact left.resolve_left List.not_mem_nil

end Sweeping
end ReplicateOnTag.AnnounceOnce
