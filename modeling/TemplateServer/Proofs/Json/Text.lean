import Mathlib.Tactic.Lemma
import TemplateServer.Json.Basic

namespace TemplateServer.Json

def itemsText (items : List Json) : Text := (emitItems items []).reverse

def membersText (members : List (Text × Json)) : Text := (emitMembers members []).reverse

mutual

lemma reverse_emit (v : Json) (out : Text) : (emit v out).reverse = out.reverse ++ v.text := by
  cases v with
  | null => simp [text, emit]
  | bool b => cases b <;> simp [text, emit]
  | int n => simp [text, emit]
  | double x => simp [text, emit]
  | str s => simp [text, emit]
  | arr items =>
    cases items with
    | nil => simp [text, emit]
    | cons v rest =>
      rw [text, emit, emit, reverse_emitItems, reverse_emitItems rest (emit v ['[']),
        reverse_emit v ('[' :: out), reverse_emit v ['[']]
      simp
  | obj members =>
    cases members with
    | nil => simp [text, emit]
    | cons m rest =>
      obtain ⟨k, v⟩ := m
      rw [text, emit, emit, reverse_emitMembers, reverse_emitMembers rest (emit v _),
        reverse_emit v (emitKey k ('\x7b' :: out)), reverse_emit v (emitKey k ['\x7b'])]
      simp [emitKey]

lemma reverse_emitItems (items : List Json) (out : Text) :
    (emitItems items out).reverse = out.reverse ++ itemsText items := by
  cases items with
  | nil => simp [itemsText, emitItems]
  | cons v rest =>
    rw [itemsText, emitItems, emitItems, reverse_emitItems, reverse_emitItems rest (emit v [',']),
      reverse_emit v (',' :: out), reverse_emit v [',']]
    simp

lemma reverse_emitMembers (members : List (Text × Json)) (out : Text) :
    (emitMembers members out).reverse = out.reverse ++ membersText members := by
  cases members with
  | nil => simp [membersText, emitMembers]
  | cons m rest =>
    obtain ⟨k, v⟩ := m
    rw [membersText, emitMembers, emitMembers, reverse_emitMembers,
      reverse_emitMembers rest (emit v (emitKey k [','])), reverse_emit v (emitKey k (',' :: out)),
      reverse_emit v (emitKey k [','])]
    simp [emitKey]

end

lemma text_int (n : Int) : (int n).text = Text.ofInt n := by simp [text, emit]

lemma text_str (s : Text) : (str s).text = quote s := by simp [text, emit]

lemma text_arr_cons (v : Json) (rest : List Json) :
    (arr (v :: rest)).text = '[' :: v.text ++ itemsText rest := by
  rw [text, emit, reverse_emitItems, reverse_emit]
  rfl

lemma text_obj_cons (k : Text) (v : Json) (rest : List (Text × Json)) :
    (obj ((k, v) :: rest)).text = '\x7b' :: quote k ++ ':' :: v.text ++ membersText rest := by
  rw [text, emit, reverse_emitMembers, reverse_emit]
  simp [emitKey]

lemma itemsText_cons (v : Json) (rest : List Json) :
    itemsText (v :: rest) = ',' :: v.text ++ itemsText rest := by
  rw [itemsText, emitItems, reverse_emitItems, reverse_emit]
  rfl

lemma membersText_cons (k : Text) (v : Json) (rest : List (Text × Json)) :
    membersText ((k, v) :: rest) = ',' :: quote k ++ ':' :: v.text ++ membersText rest := by
  rw [membersText, emitMembers, reverse_emitMembers, reverse_emit]
  simp [emitKey]

end TemplateServer.Json
