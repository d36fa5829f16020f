import WasmText.Config.Load
import WasmText.Diagnostic.Report
import WasmText.Expr.Equality
import WasmText.Expr.Stored
import WasmText.Expr.Switch
import WasmText.HexDump.Reader
import WasmText.Module.Resolution
import WasmText.Script.Reader
import WasmText.SymbolTable.Layout
import WasmText.SymbolTable.Links
import WasmText.SymbolTable.Run
import WasmText.Proofs.SymbolTable.Store
import WasmText.Proofs.SymbolTable.LinkFree
import WasmText.Proofs.SymbolTable.Numbering
import WasmText.Proofs.TypeSpace.Built
import WasmText.Proofs.TypeSpace.Run
import WasmText.Module.Run
import WasmText.Proofs.Module.Appending
import WasmText.Proofs.Module.Views
import WasmText.Proofs.Module.Resolution
import WasmText.Proofs.Func.Frame
import WasmText.Proofs.SymbolTable.Resizing
import WasmText.Proofs.Module.Kinds
import WasmText.Proofs.SymbolTable.PlacementOrder
import WasmText.Proofs.SymbolTable.Duplicates
import WasmText.Proofs.SymbolTable.Capacity
import WasmText.Proofs.Expr.Targets
import WasmText.Proofs.Module.Atomicity
import WasmText.Proofs.Module.Exporting
import WasmText.Proofs.Expr.Equality
import WasmText.Proofs.Expr.SameSwitch
import WasmText.Proofs.Expr.Traversal
import WasmText.Proofs.HexDump.Joining
import WasmText.Proofs.SymbolTable.Searching
import WasmText.Proofs.Config.InitialCapacity
import WasmText.Proofs.Text.Utf8
import WasmText.Proofs.Script.Reading
import WasmText.Proofs.Name.Spreading
