import HpackHuffman.Util.Bits
import HpackHuffman.Util.Bytes
import HpackHuffman.Util.PrefixCode
import HpackHuffman.Util.CompleteCode
import HpackHuffman.Util.CodeTree
import HpackHuffman.Util.Loop
import HpackHuffman.Util.Search
import HpackHuffman.Util.Checked
import HpackHuffman.Table
import HpackHuffman.HpackTree
import HpackHuffman.Spec.Codec
import HpackHuffman.Spec.Dfa
import HpackHuffman.Spec.Language
import HpackHuffman.Spec.Complete
import HpackHuffman.Spec.Decode
import HpackHuffman.Spec.Encode
import HpackHuffman.Lowstar.DfaTables
import HpackHuffman.Lowstar.Tables
import HpackHuffman.Refine.DfaTable
import HpackHuffman.Refine.Encode
import HpackHuffman.Refine.Answer
import HpackHuffman.Lowstar.Dfa
import HpackHuffman.Lowstar.Decode
import HpackHuffman.Refine.Views
import HpackHuffman.Lowstar.Invariant
import HpackHuffman.Lowstar.Codec
import HpackHuffman.Lowstar.Exact
import HpackHuffman.Interface
import HpackHuffman.Footprint
import HpackHuffman.Concat
import HpackHuffman.Shim
import HpackHuffman.Outcome
import HpackHuffman.TwoRuns
import HpackHuffman.Reference.Table
import HpackHuffman.Refine.Reference
import HpackHuffman.Reference.Decode
import HpackHuffman.Reference.EncodeTable
import HpackHuffman.Reference.Encode
import HpackHuffman.Generator.Worklist
import HpackHuffman.Refine.Lookup
import HpackHuffman.Generator.Tables
import HpackHuffman.Source.Code
import HpackHuffman.Source.Tables
import HpackHuffman.Source.Encode
import HpackHuffman.Source.Decode
import HpackHuffman.Source.RoundTrip
import HpackHuffman.Source.Extract
import HpackHuffman.Generator.Emit
import HpackHuffman.Generator.Regenerate
import HpackHuffman.Test.Diff
import HpackHuffman.Test.Huffman
import HpackHuffman.Generator.ReadSpec
import HpackHuffman.Generator.StripHeader
