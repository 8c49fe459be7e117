import GameSheets.Compile.Text
import GameSheets.Files.Tree
import GameSheets.Main
import GameSheets.Proofs.Column.TypeCells
import GameSheets.Proofs.Comment.Columns
import GameSheets.Proofs.Comment.Workbooks
import GameSheets.Proofs.Declaration.Arrays
import GameSheets.Proofs.Declaration.Enumerators
import GameSheets.Proofs.Declaration.Homes
import GameSheets.Proofs.Declaration.Numbering
import GameSheets.Proofs.Declaration.Scope
import GameSheets.Proofs.Declaration.Zeros
import GameSheets.Proofs.Document.Agreement
import GameSheets.Proofs.Document.Keys
import GameSheets.Proofs.Document.Lookups
import GameSheets.Proofs.Hidden.Compiling
import GameSheets.Proofs.Table.Fingerprinting
import GameSheets.Proofs.Table.Ids
import GameSheets.Proofs.Table.Sharing
import GameSheets.Proofs.Table.Symbols
import GameSheets.Proofs.Workbook.Compiling
import GameSheets.Proofs.Workbook.Gathering
import GameSheets.Proofs.Workbook.LateFaults
import GameSheets.Proofs.Workbook.Splitting
import GameSheets.Proofs.Workbook.TypeRows
import GameSheets.Text.Width.Spaces
import GameSheets.Proofs.Column.Grammar
import GameSheets.Proofs.Files.Views
import GameSheets.Proofs.Workbook.NormalForm
import GameSheets.Proofs.Files.Writing
import GameSheets.Proofs.Table.Faults
import GameSheets.Proofs.Table.FirstFault
import GameSheets.Proofs.Number.Literals
import GameSheets.Proofs.Table.Composites
import GameSheets.Proofs.Table.Canonical
import GameSheets.Proofs.Header.Docs
import GameSheets.Proofs.Files.Locations
import GameSheets.Proofs.Files.Apart
import GameSheets.Proofs.Declaration.TypeNames
import GameSheets.Proofs.Workbook.Cleaning
import GameSheets.Proofs.Header.Columns
import GameSheets.Proofs.Text.ByteOrder
import GameSheets.Proofs.Files.Loading
