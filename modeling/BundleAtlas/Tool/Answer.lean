import BundleAtlas.Bundle.Unpack
import BundleAtlas.Bundle.Vendor
import BundleAtlas.Symbol.CallGraph
import BundleAtlas.Symbol.Inventory
import BundleAtlas.Symbol.Locate
import BundleAtlas.Symbol.Outline

/-!
Results as data: the records that answers are made of, field by field.
-/

namespace BundleAtlas

/-- A list of texts as data. -/
def Datum.texts (xs : List String) : Datum := .list (xs.map .text)

def Skipped.toDatum (s : Skipped) : Datum :=
  .record [("unit_id", .text s.unitId), ("error", .text s.error)]

def Piece.toDatum (u : Piece) : Datum :=
  .record [("id", .text u.id), ("path", .text u.path), ("text", .text u.text)]

/-- A row of a search result. -/
def Piece.toRow (u : Piece) : Datum := .record [("id", .text u.id), ("path", .text u.path)]

/-- The modules of a bundle, or null. -/
def Splitting.toDatum (s : Splitting) : Datum :=
  match s.units? with
  | some units => .list (units.map Piece.toDatum)
  | none => .null

def Unpacked.toDatum (u : Unpacked) : Datum :=
  .record [("code", .text u.code), ("units", u.splitting.toDatum),
    ("is_bundle", .flag u.splitting.units?.isSome)]

def UnitSummary.toDatum (r : UnitSummary) : Datum :=
  .record [("id", .text r.id), ("path", .text r.path), ("size", .count r.size),
    ("is_vendor", .flag r.isVendor)]

def SymbolSpan.toDatum (s : SymbolSpan) : Datum :=
  .record [("name", .text s.name), ("kind", .text s.kind),
    ("span", .list [.count s.span.startLine, .count s.span.startColumn, .count s.span.stopLine,
      .count s.span.stopColumn]),
    ("text", .text s.text)]

def SymbolEntry.toDatum (s : SymbolEntry) : Datum :=
  .record [("unit_id", .text s.unitId), ("unit_path", .text s.unitPath), ("name", .text s.name),
    ("kind", .text s.kind.name), ("start_line", .count s.startLine),
    ("line_count", .count s.lineCount), ("parameters", .texts s.parameters),
    ("signature", .text s.signature)]

def Inventory.toDatum (i : Inventory) : Datum :=
  .record [("symbols", .list (i.symbols.map SymbolEntry.toDatum)),
    ("skipped", .list (i.skipped.map Skipped.toDatum))]

def OutgoingCall.toDatum (c : OutgoingCall) : Datum :=
  .record [("name", .text c.name), ("line", .count c.line)]

def IncomingCall.toDatum (c : IncomingCall) : Datum :=
  .record [("caller_unit_id", .text c.callerUnitId), ("caller_name", .text c.callerName),
    ("line", .count c.line)]

def CallGraph.toDatum (g : CallGraph) : Datum :=
  .record [("symbol", .text g.symbol), ("unit_id", .text g.unitId),
    ("outgoing", .list (g.outgoing.map OutgoingCall.toDatum)),
    ("incoming", .list (g.incoming.map IncomingCall.toDatum)),
    ("skipped", .list (g.skipped.map Skipped.toDatum))]

def Outline.toDatum (o : Outline) : Datum :=
  .record [("functions", .texts o.functions), ("classes", .texts o.classes),
    ("exports", .texts o.exports), ("total_functions", .count o.totalFunctions),
    ("total_variables", .count o.totalVariables), ("message", .text Outline.advice)]

end BundleAtlas
