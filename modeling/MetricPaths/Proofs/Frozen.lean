import MetricPaths.Value

/-! Frozen data comes back from its thawed form. Only tuples can be lost on the way:
freezing does not look into them, but thawing makes lists of them, which are frozen
again to something else. Data itself comes back from its frozen form exactly if its mappings
and lists are none of the read-only forms. -/
namespace MetricPaths
namespace Value

mutual

/-- Whether no tuple stands in a value, at any depth of mappings and lists. -/
def isTupleFree : Value → Bool
  | .tuple _ => false
  | .list items => areTupleFree items
  | .map entries | .view entries => entriesAreTupleFree entries
  | _ => true

def areTupleFree : List Value → Bool
  | [] => true
  | v :: rest => v.isTupleFree && areTupleFree rest

def entriesAreTupleFree : List (Value × Value) → Bool
  | [] => true
  | (_, v) :: rest => v.isTupleFree && entriesAreTupleFree rest

end

mutual

theorem freeze_thaw_freeze (v : Value) (h : v.isTupleFree) : v.freeze.thaw.freeze = v.freeze := by
  cases v with
  | map entries | view entries =>
    simp only [freeze, thaw]
    rw [freezeEntries_thawEntries_freezeEntries entries h]
  | list items =>
    simp only [freeze, thaw]
    rw [freezeAll_thawAll_freezeAll items h]
  | tuple items => exact absurd h (by simp [isTupleFree])
  | null | bool | int | float | str | set | bytes | day | moment => rfl

theorem freezeAll_thawAll_freezeAll (items : List Value) (h : areTupleFree items) :
    freezeAll (thawAll (freezeAll items)) = freezeAll items := by
  cases items with
  | nil => rfl
  | cons v rest =>
    rw [areTupleFree, Bool.and_eq_true] at h
    simp only [freezeAll, thawAll]
    rw [freeze_thaw_freeze v h.1, freezeAll_thawAll_freezeAll rest h.2]

theorem freezeEntries_thawEntries_freezeEntries (entries : List (Value × Value))
    (h : entriesAreTupleFree entries) :
    freezeEntries (thawEntries (freezeEntries entries)) = freezeEntries entries := by
  cases entries with
  | nil => rfl
  | cons e rest =>
    obtain ⟨k, v⟩ := e
    rw [entriesAreTupleFree, Bool.and_eq_true] at h
    simp only [freezeEntries, thawEntries]
    rw [freeze_thaw_freeze v h.1, freezeEntries_thawEntries_freezeEntries rest h.2]

end

mutual

def isPlain : Value → Bool
  | .tuple _ | .view _ => false
  | .list items => arePlain items
  | .map entries => entriesArePlain entries
  | _ => true

def arePlain : List Value → Bool
  | [] => true
  | v :: rest => v.isPlain && arePlain rest

def entriesArePlain : List (Value × Value) → Bool
  | [] => true
  | (_, v) :: rest => v.isPlain && entriesArePlain rest

end

mutual

theorem thaw_freeze_iff (v : Value) : v.freeze.thaw = v ↔ v.isPlain := by
  cases v with
  | map entries =>
    rw [freeze, thaw, Value.map.injEq, isPlain]
    exact thawEntries_freezeEntries_iff entries
  | list items =>
    rw [freeze, thaw, Value.list.injEq, isPlain]
    exact thawAll_freezeAll_iff items
  | tuple | view => simp [freeze, thaw, isPlain]
  | null | bool | int | float | str | set | bytes | day | moment => exact iff_of_true rfl rfl

theorem thawAll_freezeAll_iff (items : List Value) :
    thawAll (freezeAll items) = items ↔ arePlain items := by
  cases items with
  | nil => exact iff_of_true rfl rfl
  | cons v rest =>
    rw [freezeAll, thawAll, List.cons.injEq, arePlain, Bool.and_eq_true]
    exact and_congr (thaw_freeze_iff v) (thawAll_freezeAll_iff rest)

theorem thawEntries_freezeEntries_iff (entries : List (Value × Value)) :
    thawEntries (freezeEntries entries) = entries ↔ entriesArePlain entries := by
  cases entries with
  | nil => exact iff_of_true rfl rfl
  | cons e rest =>
    obtain ⟨k, v⟩ := e
    rw [freezeEntries, thawEntries, List.cons.injEq, Prod.mk.injEq, entriesArePlain,
      Bool.and_eq_true]
    exact and_congr ((and_iff_right rfl).trans (thaw_freeze_iff v))
      (thawEntries_freezeEntries_iff rest)

end

end Value
end MetricPaths
