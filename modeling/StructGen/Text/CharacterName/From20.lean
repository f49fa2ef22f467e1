import StructGen.Text.CharacterName.Run

/-!
# Names of the characters from U+0020
-/

namespace StructGen.Text.CharacterName

/-- The names of the characters from U+0020 up to U+1CFA. -/
def namesFrom20 : List Run := [
  ⟨0x20, ["SPACE;syve;xave;vxn;DOLLARn;PERCENTn;AMPERSAND;APOSTROPHE;jwn;lwn;qp;wqn;rn;",
    "HYPHEN-MINUS;tfyb;xw;shzz;1wd;1ze;1yq;1td;1tc;1xu;1xo;1sr;1vs;rl;SEMICOLON;utn;svn;tin;",
    "wzve;COMMERCIAL AT;uqekA;3B;3C;3D;3E;3F;3G;3H;3I;3J;3K;3L;3M;3N;3O;3P;3Q;3R;3S;3T;3U;3V;",
    "3W;3X;3Y;3Z;jxyqx;xexw;lxyqx;riqb;uzuw;thqb;uqokA;3B;3C;3D;3E;3F;3G;3H;3I;3J;3K;3L;3M;3N;",
    "3O;3P;3Q;3R;3S;3T;3U;3V;3W;3X;3Y;3Z;jrvqx;znuw;lrvqx;ys"]⟩,
  ⟨0xA0, ["NO-BREAK SPACE;uhsyve;CENTn;POUNDn;CURRENCYn;YENn;BROKENqr;xmn;sd;COPYRIGHTn;",
    "FEMININE ORDINAL INDICATOR;urfqhxave;vwn;SOFT HYPHEN;REGISTEREDn;vc;DEGREEn;PLUS-MINUSn;",
    "yfze;1yq;qcqb;MICROn;PILCROWn;vjsj;rc;yfwd;MASCULINE ORDINAL INDICATOR;xgfqhxave;",
    "VULGARtewdwx;3tn;2yqwy;uhwzve;uqekApth;5qc;5ri;5ys;5sd;5xha;3AE;3Cprc;3Epth;5qc;5ri;5sd;",
    "3Ipth;5qc;5ri;5sd;3ETH;3Npys;3Opth;5qc;5ri;5ys;5sd;vnn;uqekOpyd;3Upth;5qc;5ri;5sd;3Ypqc;",
    "3THORN;1okSHARP S;3Apth;5qc;5ri;5ys;5sd;5xha;3AE;3Cprc;3Epth;5qc;5ri;5sd;3Ipth;5qc;5ri;",
    "5sd;3ETH;3Npys;3Opth;5qc;5ri;5ys;5sd;DIVISIONn;uqokOpyd;3Upth;5qc;5ri;5sd;3Ypqc;3THORN;",
    "3Ypsd;1ekApvc;1okApvc;1ekApqy;1okApqy;1ekApOGONEK;1okApOGONEK;1ekCpqc;1okCpqc;1ekCpri;",
    "1okCpri;1ekCpsja;1okCpsja;1ekCprb;1okCprb;1ekDprb;1okDprb;1ekDpyd;1okDpyd;1ekEpvc;1okEpvc;",
    "1ekEpqy;1okEpqy;1ekEpsja;1okEpsja;1ekEpOGONEK;1okEpOGONEK;1ekEprb;1okEprb;1ekGpri;1okGpri;",
    "1ekGpqy;1okGpqy;1ekGpsja;1okGpsja;1ekGprc;1okGprc;1ekHpri;1okHpri;1ekHpyd;1okHpyd;1ekIpys;",
    "1okIpys;1ekIpvc;1okIpvc;1ekIpqy;1okIpqy;1ekIpOGONEK;1okIpOGONEK;1ekIpsja;1okDOTLESS I;",
    "1euuIJ;1ouuIJ;1ekJpri;1okJpri;1ekKprc;1okKprc;3KRA;1ekLpqc;1okLpqc;1ekLprc;1okLprc;",
    "1ekLprb;1okLprb;1ekLpvjsj;1okLpvjsj;1ekLpyd;1okLpyd;1ekNpqc;1okNpqc;1ekNprc;1okNprc;",
    "1ekNprb;1okNprb;4PRECEDED BY APOSTROPHE;1ekENG;1okENG;1ekOpvc;1okOpvc;1ekOpqy;1okOpqy;",
    "1ekOpfqc;1okOpfqc;1euuOE;1ouuOE;1ekRpqc;1okRpqc;1ekRprc;1okRprc;1ekRprb;1okRprb;1ekSpqc;",
    "1okSpqc;1ekSpri;1okSpri;1ekSprc;1okSprc;1ekSprb;1okSprb;1ekTprc;1okTprc;1ekTprb;1okTprb;",
    "1ekTpyd;1okTpyd;1ekUpys;1okUpys;1ekUpvc;1okUpvc;1ekUpqy;1okUpqy;1ekUpxha;1okUpxha;",
    "1ekUpfqc;1okUpfqc;1ekUpOGONEK;1okUpOGONEK;1ekWpri;1okWpri;1ekYpri;1okYpri;1ekYpsd;3Zpqc;",
    "1okZpqc;1ekZpsja;1okZpsja;1ekZprb;1okZprb;3uyS;3Bpyd;1ekBpty;5TOPBAR;1okBpTOPBAR;1ekyvxu;",
    "1okyvxu;1ekweO;3Cpty;1okCpty;1ekAFRICAN D;3Dpty;5TOPBAR;1okDpTOPBAR;3zcDELTA;1ekxfE;",
    "3SCHWA;3weE;3Fpty;1okFpty;1ekGpty;3GAMMA;1okHV;1ekIOTA;3Ipyd;3Kpty;1okKpty;3Lpqr;",
    "3LAMBDApyd;1ekzcM;3Npjty;1okNpuylLEG;1ekOpvjys;5HORN;1okOpHORN;1ekOI;1okOI;1ekPpty;",
    "1okPpty;1kYR;1ekyvze;1okyvze;1ekESH;1kxfESH LOOP;1okTpwmty;1ekTpty;1okTpty;1ekTpxdty;",
    "3UpHORN;1okUpHORN;1ekzj;3Vpty;3Ypty;1okYpty;1ekZpyd;1okZpyd;1ekEZH;4xf;1okEZHxf;4pyk;",
    "1kzepyd;1ekyvtc;1okyvtc;1kuhtgybpyd;2WYNN;2DENTAL CLICK;2LATERAL CLICK;2ALVEOLAR CLICK;",
    "2xdCLICK;1ekDZprb;3DpokZprb;1okDZprb;1ekLJ;3LpokJ;1okLJ;1ekNJ;3NpokJ;1okNJ;1ekAprb;",
    "1okAprb;1ekIprb;1okIprb;1ekOprb;1okOprb;1ekUprb;1okUprb;1ekUpsdbvc;1okUpsdbvc;1ekUpsdbqc;",
    "1okUpsdbqc;1ekUpsdbrb;1okUpsdbrb;1ekUpsdbth;1okUpsdbth;3zcE;1ekApsdbvc;1okApsdbvc;",
    "1ekApsjabvc;1okApsjabvc;1ekAEpvc;1okAEpvc;1ekGpyd;1okGpyd;1ekGprb;1okGprb;1ekKprb;1okKprb;",
    "1ekOpOGONEK;1okOpOGONEK;1ekOpOGONEKbvc;1okOpOGONEKbvc;1ekEZHprb;1okEZHprb;3Jprb;1ekDZ;",
    "3DpokZ;1okDZ;1ekGpqc;1okGpqc;1ekHWAIR;3WYNN;3Npth;1okNpth;1ekApxhabqc;1okApxhabqc;",
    "1ekAEpqc;1okAEpqc;1ekOpydbqc;1okOpydbqc;1ekApfth;1okApfth;1ekApuhqy;1okApuhqy;1ekEpfth;",
    "1okEpfth;1ekEpuhqy;1okEpuhqy;1ekIpfth;1okIpfth;1ekIpuhqy;1okIpuhqy;1ekOpfth;1okOpfth;",
    "1ekOpuhqy;1okOpuhqy;1ekRpfth;1okRpfth;1ekRpuhqy;1okRpuhqy;1ekUpfth;1okUpfth;1ekUpuhqy;",
    "1okUpuhqy;1ekSprnd;1okSprnd;1ekTprnd;1okTprnd;1ekYOGH;1okYOGH;1ekHprb;1okHprb;1ekNpuylLEG;",
    "1okDpCURL;1ekOU;1okOU;1ekZpty;1okZpty;1ekApsja;1okApsja;1ekEprc;1okEprc;1ekOpsdbvc;",
    "1okOpsdbvc;1ekOpysbvc;1okOpysbvc;1ekOpsja;1okOpsja;1ekOpsjabvc;1okOpsjabvc;1ekYpvc;",
    "1okYpvc;3LpCURL;3NpCURL;3TpCURL;3DOTLESS J;3DBsi;3QPsi;1ekApyd;3Cpyd;1okCpyd;1ekLpqr;",
    "3Tpseyd;1okSpSWASHyk;3ZpSWASHyk;1ektgyb;1oktgyb;1ekBpyd;3Uqr;3zcV;3Epyd;1okEpyd;1ekJpyd;",
    "1okJpyd;1ekoQptyyk;1okQptyyk;1ekRpyd;1okRpyd;1ekYpyd;1okYpyd;3zcA;3qe;3zcqe;3Bpty;3weO;",
    "3CpCURL;3Dpyk;5ty;3xfE;3SCHWA;4pty;3weE;3xfweE;6pty;3rkxfweE;3DOTLESS Jpyd;3Gpty;3xlG;",
    "1koeG;1okGAMMA;3RAMS HORN;3zcH;3Hpty;3HENGpty;3Ipyd;3IOTA;1koeI;1okLpvjys;5BELT;5xdty;",
    "3LEZH;3zcM;5puyLEG;3Mpty;3Npjty;5xdty;1koeN;1okBARRED O;1koeOE;1okrkwb;3PHI;3zcR;5puyLEG;",
    "6ty;3RpuyLEG;5yk;5FISHHOOK;3xfRpFISHHOOK;1koeR;4uhR;1okSpty;3ESH;3DOTLESS Jpydbty;",
    "3SQUATxfESH;3ESHpCURL;3zcT;3Tpxdty;3Uqr;3zj;3Vpty;3zcV;4W;4Y;1koeY;1okZpxdty;5CURL;3EZH;",
    "4pCURL;1ktgyb;2PHARYNGEAL VOICED FRICATIVE;2uhtgyb;2STRETCHED C;2BILABIAL CLICK;2oeB;",
    "1okrkweE;1koeGpty;4H;1okJpCROSSED-TAIL;3zcK;1koeL;1okQpty;1ktgybpyd;2xftgybpyd;1okDZsi;",
    "3DEZHsi;3DZsipCURL;3TSsi;3TESHsi;3TCsipCURL;3FENGsi;3LSsi;3LZsi;1kBILABIAL PERCUSSIVE;",
    "2BIDENTAL PERCUSSIVE;1okzcHpFISHHOOK;7byk;vkkoH;4pty;3J;3R;3zcR;5pty;3euhR;3W;3Y;2PRIME;",
    "2fPRIME;2zcrn;2APOSTROPHE;2xfrn;2ltnxh;2jtnxh;2tgyb;2xftgyb;2jqo;2lqo;2zgqo;2snqo;2riqb;",
    "rb;vkkznuw;2vc;2qcqb;2thqb;2uzznuw;3vc;3thqb;3qcqb;2yzrl;2tnyzrl;2CENTREDltnxh;3jtnxh;",
    "2zgTACK;2snTACK;2wqn;2MINUSn;qy;sja;xha;OGONEK;oys;fqcqb;vkkRHOTICty;2rsqb;2oGAMMA;3L;3S;",
    "3X;3xftgyb;2EXTRA-HIGHyvqr;2twyvqr;2MIDyvqr;2uzyvqr;2EXTRA-LOWyvqr;2YIN DEPARTINGyvve;",
    "2YANG DEPARTINGyvve;2VOICING;2UNASPIRATED;2fAPOSTROPHE;2uzsnqo;3zgqo;3jqo;3lqo;3xh;",
    "2vjthqb;3fthqb;4qcqb;2uzys;2xcrl;2BEGINtwyv;2ENDtwyv;2BEGINuzyv;2ENDuzyv;2SHELF;2weSHELF;",
    "2uzjc;rmthqb;1qcqb;1riqb;1ys;1vc;1OVERLINE;1qy;1sja;1sd;1tya;1xha;1fqcqb;1rb;1znuwa;",
    "1fznuwa;2thqb;1ra;1uhqy;1zcrna;1rna;1xfrna;1rnal;1thqbd;1qcqbd;1jTACKd;1lTACKd;1jqha;",
    "1HORN;1jtnxhd;1zgTACKd;1snTACKd;1wqnd;1MINUSnd;1PALATALIZEDtyd;1xdtyd;1sjd;1sdd;1xhd;1rnd;",
    "1rc;1OGONEK;1znuwd;1BRIDGEd;1uhfARCHd;1rbd;1riqbd;1qyd;1uhqyd;1ysd;1vcd;1uzuw;1fuzuw;",
    "1yswj;1xrydwj;1uyydwj;1xrxwwj;1uyxwwj;1ltnxhd;1uhBRIDGEd;1xyd;1SEAGULLd;1Xa;1znys;",
    "1fOVERLINE;1thyvve;1qcyvve;1tjwo;2KORONIS;2sfTONOS;2zy;1BRIDGEa;1svnd;1fznuwd;1jqhd;",
    "1vwysa;1HOMOTHETICa;1ALMOSTsuyua;1jlcd;1zkcd;1GRAPHEME JOINER;1lqoa;1jtnxha;1FERMATA;1Xd;",
    "1jqod;1lqod;3bzgqod;2tnxha;1sjal;1qpd;1fxhd;1ZIGZAGa;1fqyd;2qy;2vc;3d;2ys;2uhqy;2mcd;",
    "1uqokA;4E;4I;4O;4U;4C;4D;4H;4M;4R;4T;4V;4X;tjekHETA;1okHETA;1ekqmSAMPI;1okqmSAMPI;",
    "1NUMERALn;1vaNUMERALn;1ekPAMPHYLIAN DIGAMMA;1okPAMPHYLIAN DIGAMMA;;;1zy;1oxfLUNATExsyi;",
    "2slLUNATExsyi;2xfslLUNATExsyi;1wzve;1ekYOT"]⟩,
  ⟨0x384, ["tjTONOS;1sfTONOS;1ekqepTONOS;1ANO TELEIA;1ekstpTONOS;3ETApTONOS;3IOTApTONOS;;",
    "3wcpTONOS;;3zjpTONOS;3wbpTONOS;1okIOTApsfbTONOS;1ekqe;3BETA;3GAMMA;3DELTA;3st;3ZETA;3ETA;",
    "3THETA;3IOTA;3KAPPA;3LAMDA;3MU;3NU;3XI;3wc;3PI;3RHO;;3xs;3TAU;3zj;3PHI;3CHI;3PSI;3wb;",
    "3IOTApsf;3zjpsf;1okqepTONOS;3stpTONOS;3ETApTONOS;3IOTApTONOS;3zjpsfbTONOS;3qe;3BETA;",
    "3GAMMA;3DELTA;3st;3ZETA;3ETA;3THETA;3IOTA;3KAPPA;3LAMDA;3MU;3NU;3XI;3wc;3PI;3RHO;3gxs;3xs;",
    "3TAU;3zj;3PHI;3CHI;3PSI;3wb;3IOTApsf;3zjpsf;3wcpTONOS;3zjpTONOS;3wbpTONOS;1eKAIyi;1BETAyi;",
    "1THETAyi;1zjptyyi;3qcbtyyi;3sdbtyyi;1PHIyi;1PIyi;1KAIyi;1kqmKOPPA;1okqmKOPPA;1kSTIGMA;",
    "1okSTIGMA;1kDIGAMMA;1okDIGAMMA;1kKOPPA;1okKOPPA;1kSAMPI;1okSAMPI;rqekSHEI;1okSHEI;1ekFEI;",
    "1okFEI;1ekKHEI;1okKHEI;1ekHORI;1okHORI;1ekGANGIA;1okGANGIA;1ekSHIMA;1okSHIMA;1ekDEI;",
    "1okDEI;tjKAPPAyi;1RHOyi;1LUNATExsyi;1kYOT;1eTHETAyi;1LUNATEstyi;1xfLUNATEstyi;1ekSHO;",
    "1okSHO;1eLUNATExsyi;2kSAN;1okSAN;1RHOpydyi;1exfLUNATExsyi;2slLUNATExsyi;2xfslLUNATExsyi;",
    "CYRILLICekIEpth;3IO;3DJE;3GJE;3UKRAINIAN IE;3DZE;3BYELORUSSIAN-UKRAINIAN I;3YI;3JE;3LJE;",
    "3NJE;3TSHE;3KJE;3Ipth;3xrU;3DZHE;3A;3BE;3VE;3GHE;3DE;3IE;3ZHE;3ZE;3I;3xrI;3uk;3EL;3EM;3EN;",
    "3O;3PE;3ER;3ES;3TE;3U;3EF;3tl;3TSE;3CHE;3xq;3SHCHA;3HARDn;3YERU;3SOFTn;3E;3YU;3zv;1okA;",
    "3BE;3VE;3GHE;3DE;3IE;3ZHE;3ZE;3I;3xrI;3uk;3EL;3EM;3EN;3O;3PE;3ER;3ES;3TE;3U;3EF;3tl;3TSE;",
    "3CHE;3xq;3SHCHA;3HARDn;3YERU;3SOFTn;3E;3YU;3zv;3IEpth;3IO;3DJE;3GJE;3UKRAINIAN IE;3DZE;",
    "3BYELORUSSIAN-UKRAINIAN I;3YI;3JE;3LJE;3NJE;3TSHE;3KJE;3Ipth;3xrU;3DZHE;1ekwb;1okwb;",
    "1ekYAT;1okYAT;1ekuiE;1okuiE;1ekuxYUS;1okuxYUS;1ekuiuxYUS;1okuiuxYUS;1ekBIG YUS;1okBIG YUS;",
    "1ekuiBIG YUS;1okuiBIG YUS;1ekKSI;1okKSI;1ekPSI;1okPSI;1ekFITA;1okFITA;1ekIZHITSA;",
    "1okIZHITSA;1ekIZHITSApfthqb;1okIZHITSApfthqb;1ekUK;1okUK;1ekROUNDwb;1okROUNDwb;",
    "1ekwbpTITLO;1okwbpTITLO;1ekOT;1okOT;1ekKOPPA;1okKOPPA;1THOUSANDSn;rmCYRILLIC TITLO;",
    "2PALATALIZATION;2rzPNEUMATA;2wuPNEUMATA;2POKRYTIE;2uaTHOUSANDSn;2MILLIONSn;",
    "CYRILLICekxrIpyk;1okxrIpyk;1ekSEMISOFTn;1okSEMISOFTn;1ekERpTICK;1okERpTICK;1ekGHEpUPTURN;",
    "1okGHEpUPTURN;1ekGHEpyd;1okGHEpyd;1ekGHEpvjty;1okGHEpvjty;1ekZHEpsc;1okZHEpsc;1ekZEpsc;",
    "1okZEpsc;1ekukpsc;1okukpsc;1ekukpznyd;1okukpznyd;1ekukpyd;1okukpyd;1ekBASHKIRuk;",
    "1okBASHKIRuk;1ekENpsc;1okENpsc;1euuEN GHE;1ouuEN GHE;1ekPEpvjty;1okPEpvjty;1ekABKHASIANtl;",
    "1okABKHASIANtl;1ekESpsc;1okESpsc;1ekTEpsc;1okTEpsc;1ekycU;1okycU;1ekycUpyd;1okycUpyd;",
    "1ektlpsc;1oktlpsc;1euuTE TSE;1ouuTE TSE;1ekCHEpsc;1okCHEpsc;1ekCHEpznyd;1okCHEpznyd;",
    "1ekSHHA;1okSHHA;1ekABKHASIAN CHE;1okABKHASIAN CHE;1ekABKHASIAN CHEpsc;1okABKHASIAN CHEpsc;",
    "1kPALOCHKA;1ekZHEpqy;1okZHEpqy;1ekukpty;1okukpty;1ekELpyk;1okELpyk;1ekENpty;1okENpty;",
    "1ekENpyk;1okENpyk;1ekKHAKASSIAN CHE;1okKHAKASSIAN CHE;1ekEMpyk;1okEMpyk;3PALOCHKA;1ekApqy;",
    "1okApqy;1ekApsd;1okApsd;1euuA IE;1ouuA IE;1ekIEpqy;1okIEpqy;1ekSCHWA;1okSCHWA;1ekSCHWApsd;",
    "1okSCHWApsd;1ekZHEpsd;1okZHEpsd;1ekZEpsd;1okZEpsd;1ekABKHASIAN DZE;1okABKHASIAN DZE;",
    "1ekIpvc;1okIpvc;1ekIpsd;1okIpsd;1ekOpsd;1okOpsd;1ekBARRED O;1okBARRED O;1ekBARRED Opsd;",
    "1okBARRED Opsd;1ekEpsd;1okEpsd;1ekUpvc;1okUpvc;1ekUpsd;1okUpsd;1ekUpfqc;1okUpfqc;",
    "1ekCHEpsd;1okCHEpsd;1ekGHEpsc;1okGHEpsc;1ekYERUpsd;1okYERUpsd;1ekGHEpydbty;1okGHEpydbty;",
    "1ektlpty;1oktlpty;1ektlpyd;1oktlpyd;1ekKOMI DE;1okKOMI DE;1ekKOMI DJE;1okKOMI DJE;",
    "1ekKOMI ZJE;1okKOMI ZJE;1ekKOMI DZJE;1okKOMI DZJE;1ekKOMI LJE;1okKOMI LJE;1ekKOMI NJE;",
    "1okKOMI NJE;1ekKOMI SJE;1okKOMI SJE;1ekKOMI TJE;1okKOMI TJE;1ekxfZE;1okxfZE;1ekELpty;",
    "1okELpty;1ekLHA;1okLHA;1ekRHA;1okRHA;1ekYAE;1okYAE;1ekQA;1okQA;1ekWE;1okWE;1ekALEUTuk;",
    "1okALEUTuk;1ekELpvjty;1okELpvjty;1ekENpvjty;1okENpvjty;1ekPEpsc;1okPEpsc;1ekSHHApsc;",
    "1okSHHApsc;1ekENpjty;1okENpjty;1ekDZZHE;1okDZZHE;1ekDCHE;1okDCHE;1ekELpsc;1okELpsc;;",
    "ARMENIANekAYB;3BEN;3GIM;3DA;3ECH;3ZA;3EH;3ET;3yu;3ZHE;3INI;3LIWN;3XEH;3CA;3KEN;3HO;3JA;",
    "3GHAD;3CHEH;3MEN;3YI;3NOW;3xq;3VO;3re;3PEH;3JHEH;3xb;3SEH;3VEW;3TIWN;3REH;3CO;3YIWN;3PIWR;",
    "3KEH;3OH;3FEH;;;1vkkjtnxh;1APOSTROPHE;1EMPHASISve;1syve;1rn;1wzve;1qave;1okzcAYB;3AYB;",
    "3BEN;3GIM;3DA;3ECH;3ZA;3EH;3ET;3yu;3ZHE;3INI;3LIWN;3XEH;3CA;3KEN;3HO;3JA;3GHAD;3CHEH;3MEN;",
    "3YI;3NOW;3xq;3VO;3re;3PEH;3JHEH;3xb;3SEH;3VEW;3TIWN;3REH;3CO;3YIWN;3PIWR;3KEH;3OH;3FEH;",
    "2uuECH YIWN;2kYIpyd;1tfyb;1HYPHEN;;;RIGHT-FACING ARMENIAN ETERNITYn;",
    "LEFT-FACING ARMENIAN ETERNITYn;ARMENIAN DRAMn;;HEBREWqbETNAHTA;2SEGOL;2SHALSHELET;",
    "2ZAQEF QATAN;3GADOL;2TIPEHA;2REVIA;2ZARQA;2PASHTA;2YETIV;2TEVIR;2GERESH;3MUQDAM;",
    "2GERSHAYIM;2QARNEY PARA;2TELISHA GEDOLA;2PAZER;2ATNAH HAFUKH;2MUNAH;2MAHAPAKH;2MERKHA;",
    "3KEFULA;2DARGA;2QADMA;2TELISHA QETANA;2YERAH BEN YOMO;2OLE;2ILUY;2DEHI;2ZINOR;1veMASORArg;",
    "1POINT SHEVA;2HATAF SEGOL;3PATAH;3QAMATS;2HIRIQ;2TSERE;2SEGOL;2PATAH;2QAMATS;2HOLAM;",
    "3HASER FOR VAV;2QUBUTS;2rwOR MAPIQ;2METEG;1wvMAQAF;1POINT RAFE;1wvPASEQ;1POINT SHINsj;",
    "2SINsj;1wvSOF PASUQ;1vezisj;2vasj;1wvNUN HAFUKHA;1POINT QAMATS QATAN"]⟩,
  ⟨0x5D0, ["HEBREWkqd;2BET;2GIMEL;2DALET;2HE;2VAV;2ZAYIN;2HET;2TET;2YOD;2gKAF;2KAF;2LAMED;",
    "2gMEM;2MEM;2gNUN;2NUN;2SAMEKH;2AYIN;2gPE;2PE;2gTSADI;2TSADI;2QOF;2RESH;2SHIN;2TAV"]⟩,
  ⟨0x5EF, ["HEBREW YODyx;1uuYIDDISHfVAV;3VAV YOD;3fYOD;1wvGERESH;2GERSHAYIM"]⟩,
  ⟨0x600, ["qkvxn;1nSANAH;1FOOTNOTE MARKER;1nSAFHA;2SAMVAT;1vxvea;qlCUBE ROOT;1FOURTH ROOT;",
    "qkRAY;qlPER MILLEn;2ylypn;AFGHANIn;qkrn;1DATExn;1POETIC VERSEn;1nMISRA;",
    "2SALLALLAHOU ALAYHE WASSALLAM;2ALAYHE ASSALLAM;2RAHMATULLAH ALAYHE;2RADI ALLAHOU ANHU;",
    "2TAKHALLUS;1otwTAH;3uuqdpLAMpzw;3ZAIN;2FATHA;2DAMMA;2KASRA;1SEMICOLON;1kve;1ENDvzTEXTve;",
    "1zasjwvve;1wzve;1kKASHMIRIzw;2to;2qdpMADDAa;4toa;2WAWptoa;2qdptod;2zwptoa;2qd;2BEH;",
    "2TEH MARBUTA;2TEH;2THEH;2uj;2tm;2um;2DAL;2THAL;2REH;2ZAIN;2SEEN;2SHEEN;2SAD;2DAD;2TAH;",
    "2ZAH;2AIN;2GHAIN;2KEHEHpzeska;4yqskd;2FARSIzwpuhV;5zeska;5yqska;1TATWEEL;1kFEH;2QAF;2KAF;",
    "2LAM;2vi;2vu;2HEH;2WAW;2qdvd;2zw;1FATHATAN;1DAMMATAN;1KASRATAN;1FATHA;1DAMMA;1KASRA;",
    "1SHADDA;1SUKUN;1MADDAHa;1toa;2d;1SUBSCRIPTqd;1uhDAMMA;1vevuGHUNNA;1ZWARAKAY;1zrnoVa;",
    "3uhoVa;3sjd;1xfDAMMA;1FATHApzesk;1WAVYtod;qlshzz;2wd;2ze;2yq;2td;2tc;2xu;2xo;2sr;2vs;",
    "qkPERCENTn;1DECIMALxn;1THOUSANDSxn;1tcwrya;1kDOTLESS BEH;3QAF;2yfqd;2qdWASLA;3pWAVYtoa;6d;",
    "2twto;4qd;4WAW;2Uptoa;2twtozw;2TTEH;2TTEHEH;2BEEH;2TEHpxh;4yqskasp;2PEH;2TEHEH;2BEHEH;",
    "2tmptoa;4zeskzna;2NYEH;2DYEH;2tmpyqska;2TCHEH;2TCHEHEH;2DDAL;2DALpxh;4sjd;6boTAH;2DAHAL;",
    "2DDAHAL;2DUL;2DALpyqskasp;4tdska;2RREH;2REHpoV;4xh;4sjd;4oVd;4sjdbsja;4zeska;2JEH;",
    "2REHptdska;2SEENpsjdbsja;4yqskd;7byqska;2SADpzeskd;4yqska;2TAHpyqska;2AINpyqska;",
    "2DOTLESS FEH;2FEHpsjMOVEDd;5d;2VEH;2FEHpyqskd;2PEHEH;2QAFpsja;4yqska;2KEHEH;2SWASH KAF;",
    "2KAFpxh;4sja;2NG;2KAFpyqskd;2GAF;3pxh;2NGOEH;2GAFpzeskd;2GUEH;2GAFpyqska;2LAMpoV;4sja;",
    "4yqska;6d;2vupsjd;3GHUNNA;2RNOON;2vupxh;4yqska;2HEH DOACHASHMEE;2TCHEHpsja;2HEHpzwa;3GOAL;",
    "4ptoa;2TEH MARBUTA GOAL;2WAWpxh;2KIRGHIZ OE;2OE;2U;2YU;2KIRGHIZ YU;2WAWpzeska;2VE;",
    "2FARSIzw;2zwpyk;4oV;2WAWpsja;2E;2zwpyqskd;3BARREE;4ptoa;1tfyb;1kAE;1otwuuSADpLAMpqdvd;",
    "4QAFpLAMpqdvd;3viudh;3LAMqd;3uj;3yqsk;3SEEN;1ENDvzAYAH;1STARTvzRUB EL HIZB;1otwROUNDEDzz;",
    "3UPRIGHT RECTANGULARzz;3DOTLESS HEADvzum;3viih;2uzSEEN;2twMADDA;2WAW;2zw;2twzw;3vu;",
    "1PLACEvzSAJDAH;1EMPTYrduzyb;3twyb;1ROUNDEDtwybpFILLEDrd;1ouzvi;1kDALpuhV;2REHpuhV;",
    "EXTENDEDqlshzz;3wd;3ze;3yq;3td;3tc;3xu;3xo;3sr;3vs;qkkSHEENpsjd;2DADpsjd;2GHAINpsjd;",
    "1nSINDHI AMPERSAND;3POSTPOSITION MEN;1kHEHpuhV;SYRIAC ENDvzPARAGRAPH;1SUPRALINEARtfyb;",
    "1SUBLINEARtfyb;1SUPRALINEARrl;1SUBLINEARrl;1tzrl;1rlSKEWEDj;3l;1SUPRALINEARrlSKEWEDj;",
    "1SUBLINEARrlSKEWEDl;1CONTRACTION;1HARKLEAN OBELUS;2METOBELUS;2ASTERISCUS;;1qave;1kALAPH;",
    "2yfALAPH;2BETH;2GAMAL;3GARSHUNI;2DALATH;2DOTLESS DALATH RISH;2HE;2WAW;2ZAIN;2HETH;2TETH;",
    "3GARSHUNI;2YUDH;3HE;2KAPH;2LAMADH;2MIM;2NUN;2SEMKATH;2gSEMKATH;2E;2PE;2xfPE;2SADHE;2QAPH;",
    "2RISH;2SHIN;2TAW;2PERSIAN BHETH;3GHAMAL;3DHALATH;1PTHAHAa;2d;2sl;1ZQAPHAa;2d;2sl;1RBASAa;",
    "2d;1slZLAMAtz;3ANGULAR;1HBASAa;2d;1HBASA-ESASAsl;1ESASAa;2d;1RWAHA;1FEMININEsj;1QUSHSHAYA;",
    "1RUKKAKHA;1zeznska;4d;1yqska;3d;1OBLIQUEuwa;3d;1MUSIC;1BARREKH;;;1kSOGDIAN ZHAIN;3KHAPH;",
    "3FE;qkkBEHpyqskHORIZONTALLYd;4sjdbyqska;4yqskwszkd;9bzeska;4zeskdbsja;4uhoVd;4oV;",
    "2tmpzeska;4yqskwszkd;2DALpzeskVERTICALLYdboTAH;4uhoVd;2REHpyd;2SEENptdska;2AINpzeska;",
    "4yqskwsspa;4zeskVERTICALLYa;2FEHpzeskd;4yqskwszkd;2KEHEHpsja;4yqska;6wszkd;2vipsja;5d;",
    "2vupzeskd;4oTAH;5V;2LAMpqr;2REHpzeskVERTICALLYa;4toa;2SEENpzeskVERTICALLYa;2tmpoqkkTAHd;",
    "8bzesk;2SEENpoqkkTAHbzesk;2REHpoqkkTAHbzesk;2tmpoqkkTAHa;2qdpEXTENDEDqlshzea;7yqa;",
    "2FARSIzwpEXTENDEDqlshzea;8yqa;8tdd;2WAWpEXTENDEDqlshzea;7yqa;2zwBARREEpEXTENDEDqlshzea;",
    "8yqa;2tmpEXTENDEDqlshtdd;2SEENpEXTENDEDqlshtda;4uhV;2KAFpzeska;THAANAkHAA;2SHAVIYANI;",
    "2NOONU;2RAA;2BAA;2LHAVIYANI;2KAAFU;2ALIFU;2VAAVU;2MEEMU;2FAAFU;2DHAALU;2THAA;2LAAMU;",
    "2GAAFU;2GNAVIYANI;2SEENU;2DAVIYANI;2ZAVIYANI;2TAVIYANI;2YAA;2PAVIYANI;2JAVIYANI;",
    "2CHAVIYANI;2TTAA;2HHAA;2KHAA;2THAALU;2ZAA;2SHEENU;2SAADHU;2DAADHU;2yu;2ZO;2AINU;2GHAINU;",
    "2QAAFU;2WAAVU;1ABAFILI;1AABAAFILI;1IBIFILI;1EEBEEFILI;1UBUFILI;1OOBOOFILI;1EBEFILI;",
    "1EYBEYFILI;1OBOFILI;1OABOAFILI;1SUKUN;1kNAA"]⟩,
  ⟨0x7C0, ["NKOshzz;2wd;2ze;2yq;2td;2tc;2xu;2xo;2sr;2vs;1kA;2EE;2I;2E;2U;2OO;2O;2DAGBASINNA;2N;",
    "2BA;2wl;2yj;2JA;2re;2DA;2xb;2RRA;2xj;2GBA;2FA;2uk;2uo;2voWOLOSO;2vb;2vy;2vo;2tl;2WA;2zv;",
    "2vyWOLOSO;2JONA JA;3re;3xb;1rmxrtwyv;3uzyv;3RISINGyv;2uyDESCENDINGyv;3twyv;3uzyv;",
    "3RISINGyv;2NASALIZATIONve;2fsja;1twyvAPOSTROPHE;1uzyvAPOSTROPHE;1yiOO DENNEN;2GBAKURUNEN;",
    "1rn;1syve;1LAJANYALAN;;;1DANTAYALAN;1DOROMEn;1TAMANn;SAMARITANkALAF;2BIT;2GAMAN;2DALAT;",
    "2IY;2BAA;2ZEN;2IT;2TIT;2YUT;2KAAF;2LABAT;2MIM;2NUN;2SINGAAT;2IN;2FI;2TSAADIY;2QUF;2RISH;",
    "2SHAN;2TAAF;1veIN;2IN-ALAF;2OCCLUSION;2rw;1vkkEPENTHETIC YUT;1veEPENTHETIC YUT;1zrnuyE;3E;",
    "3OVERLONG AA;3uyAA;3AA;3OVERLONG A;3uyA;3A;1vkkxrA;1zrnxrA;3uyU;3U;1vkkI;1zrnuyI;3I;3O;",
    "3SUKUN;1veNEQUDAA;;;1wvNEQUDAA;2AFSAAQ;2ANGED;2BAU;2ATMAAU;2SHIYYAALAA;1qave;",
    "1wvMELODIC QITSA;2ZIQAA;2QITSA;2ZAEF;2TURU;2ARKAANU;2SOF MASHFAAT;2ANNAAU;;MANDAICkHALQA;",
    "2AB;2AG;2AD;2AH;2USHENNA;2AZ;2IT;2ATT;2AKSA;2AK;2AL;2AM;2AN;2AS;2IN;2AP;2ASZ;2AQ;2AR;2ASH;",
    "2AT;2DUSHENNA;2KAD;2AIN;1AFFRICATIONve;1VOCALIZATIONve;1GEMINATIONve;;;1wv;;",
    "SYRIACkMALAYALAMvr;3JA;3vy;3TTA;3NNA;3NNNA;3BHA;3xb;3LLA;3LLLA;3SSA"]⟩,
  ⟨0x870, ["qkkqdpATTACHED FATHA;5TOPlFATHA;4lvjyd;4jvjyd;4ATTACHED KASRA;5qwlKASRA;5ROUNDsja;",
    "5lROUNDsj;5jROUNDsj;5ROUNDsjd;4sja;4ATTACHED TOPlFATHAbsja;4lvjydbsja;",
    "4ATTACHEDqwlKASRAbsja;5TOPlFATHAbjxh;4lvjydbjxh;4ATTACHEDqwlKASRAbjxh;5lto;5jto;",
    "1TATWEELpOVERSTRUCKto;4WAW;3zeskd;1kTHINzw;1BASELINE ROUNDsj;1xcROUNDsj;1kvupuhoV;",
    "2tmpuhoVd;2TAHpsjd;4yqskd;2KEHEHpzeskVERTICALLYd;1znyk;;1POUNDvea;1PIASTREvea"]⟩,
  ⟨0x898, ["qkotwWORD AL-JUZ;2uzWORD ISHMAAM;4IMAALA;4TASHEEL;1MADDA WAAJIB;1yfqdMOKHASSAS;",
    "1DOUBLED MADDA;1tnMADDAwiMADDA;1kBEHpoVd;4toa;2ujpzeska;2TAHpzeska;2FEHpsjdbyqska;",
    "2QAFpsjd;2LAMpfqr;2vipyqska;2zwpzeskdbtoa;8sja;2REHpLOOP;2WAWpsjWITHIN;2ROHINGYAzw;2uzqd;",
    "2DALpyqskd;2SADpyqskd;2GAFpuhyd;2ycWAW;2ZAINpuhVa;2AINpyqskd;2KAFpsjd;2QAFpsjdbNOska;",
    "2BEHpovia;2PEHpovia;2TEHpoTEHa;2REHpovua;2zwpzeskdbovua;2AFRICAN FEH;3QAF;3vu;2PEHpoV;",
    "2TEHpoV;2TTEHpoV;2TCHEHpoV;2KEHEHpoV;2GHAINpyqska;2AFRICAN QAFpyqska;2ujpyqska;6d;",
    "2LAMpoqkkTAHa;2GRAF;1oFARSIzw;2twFARSIzw;3zwBARREEpzeskd;3WORD SAH;3ZAH;1upROUNDsja;4d;",
    "1SUKUNd;1uprgd;2ROUNDsjINSIDErgd;1ouzWAW;2twWORD AR-RUB;3SAD;3AIN;3QAF;3vupKASRA;",
    "2uzvupKASRA;2twWORD ATH-THALATHA;4AS-SAJDA;4AN-NISF;4SAKTA;4QIF;4WAQFA;3FOOTNOTE MARKER;",
    "3nSAFHA;1DISPUTED ENDvzAYAH;1zcDAMMAd;1rvFATHA;2DAMMA;2KASRA;2FATHATAN;2DAMMATAN;",
    "2KASRATAN;1yvwdsja;2zeska;2LOOPa;2wdsjd;2zeskd;2LOOPd;1weFATHATAN;2DAMMATAN;2KASRATAN;",
    "1otwWAW;1FATHApxh;3sja;1KASRApsjd;1jqoa;1lqoa;1jqod;1lqod;1flqoa;5psj;1lqoapsj;1DAMMApsj;",
    "1veSIDEWAYSvuGHUNNA;DEVANAGARInuhra;2ra;2qj;2zp;1kxrA;2A;2AA;2I;2II;2U;2UU;2zqR;3L;",
    "2CANDRA E;2xrE;2E;2AI;2CANDRA O;2xrO;2O;2AU;2uk;2ul;2GA;2GHA;2vr;2CA;2re;2JA;2JHA;2vy;",
    "2TTA;2zb;2DDA;2sa;2NNA;2yj;2yn;2DA;2DHA;2vo;2NNNA;2wl;2wp;2BA;2BHA;2vb;2zv;2xb;2RRA;2uo;",
    "2LLA;2LLLA;2VA;2xq;2SSA;2xj;2tl;1zrnOE;3OOE;1nNUKTA;2qq;1zrnAA;3I;3II;3U;3UU;3zqR;4RR;",
    "3CANDRA E;3xrE;3E;3AI;3CANDRA O;3xrO;3O;3AU;1nzo;1zrnPRISHTHAMATRA E;3AW;1OM;",
    "1STRESSnUDATTA;3ANUDATTA;1thqb;1qcqb;1zrnCANDRAuyE;3UE;3UUE;1kQA;2KHHA;2GHHA;2ZA;2DDDHA;",
    "2RHA;2FA;2YYA;2zqRR;3LL;1zrnzqL;4LL;1rx;1frx;1shzz;2wd;2ze;2yq;2td;2tc;2xu;2xo;2sr;2vs;",
    "1qan;1ntwSPACINGsj;1kCANDRA A;2OE;2OOE;2AW;2UE;2UUE;2MARWARI DDA;2ZHA;2tvzv;2GGA;2JJA;",
    "2tgyb;2DDDA;2BBA;BENGALI ANJI;1nra;2qj;2zp;;1kA;2AA;2I;2II;2U;2UU;2zqR;3L;;;2E;2AI;;;2O;",
    "2AU;2uk;2ul;2GA;2GHA;2vr;2CA;2re;2JA;2JHA;2vy;2TTA;2zb;2DDA;2sa;2NNA;2yj;2yn;2DA;2DHA;2vo;",
    ";2wl;2wp;2BA;2BHA;2vb;2zv;2xb;;2uo"]⟩,
  ⟨0x9B6, ["BENGALIkxq;2SSA;2xj;2tl;;;1nNUKTA;2qq;1zrnAA;3I;3II;3U;3UU;3zqR;4RR;;;3E;3AI;;;3O;",
    "3AU;1nzo;1kKHANDAyj"]⟩,
  ⟨0x9D7, ["BENGALI AU LENGTHve"]⟩,
  ⟨0x9DC, ["BENGALIkRRA;2RHA;;2YYA;2zqRR;3LL;1zrnzqL;4LL;;;1shzz;2wd;2ze;2yq;2td;2tc;2xu;2xo;",
    "2sr;2vs;1kxbpvjse;4vase;1RUPEEve;2n;1CURRENCY NUMERATORwd;3ze;3yq;3td;",
    "3wdLESS THAN THE DENOMINATOR;2DENOMINATOR SIXTEEN;1ISSHAR;1GANDAve;1kVEDICqj;1qan;",
    "1SANDHIve;;;GURMUKHInADAK BINDI;2BINDI;2zp;;1kA;2AA;2I;2II;2U;2UU"]⟩,
  ⟨0xA0F, ["GURMUKHIkEE;2AI;;;2OO;2AU;2uk;2ul;2GA;2GHA;2vr;2CA;2re;2JA;2JHA;2vy;2TTA;2zb;2DDA;",
    "2sa;2NNA;2yj;2yn;2DA;2DHA;2vo;;2wl;2wp;2BA;2BHA;2vb;2zv;2xb;;2uo;2LLA;;2VA;2xq;;2xj;2tl;;;",
    "1nNUKTA;;1zrnAA;3I;3II;3U;3UU"]⟩,
  ⟨0xA47, ["GURMUKHIzrnEE;3AI;;;3OO;3AU;1nzo"]⟩,
  ⟨0xA51, ["GURMUKHInUDAAT"]⟩,
  ⟨0xA59, ["GURMUKHIkKHHA;2GHHA;2ZA;2RRA;;2FA"]⟩,
  ⟨0xA66, ["GURMUKHIshzz;2wd;2ze;2yq;2td;2tc;2xu;2xo;2sr;2vs;1TIPPI;1ADDAK;1IRI;1URA;1EK ONKAR;",
    "1nYAKASH;1qan"]⟩,
  ⟨0xA81, ["GUJARATInra;2qj;2zp;;1kA;2AA;2I;2II;2U;2UU;2zqR;3L;1zrCANDRA E;;1kE;2AI;",
    "1zrCANDRA O;;1kO;2AU;2uk;2ul;2GA;2GHA;2vr;2CA;2re;2JA;2JHA;2vy;2TTA;2zb;2DDA;2sa;2NNA;2yj;",
    "2yn;2DA;2DHA;2vo;;2wl;2wp;2BA;2BHA;2vb;2zv;2xb;;2uo;2LLA;;2VA;2xq;2SSA;2xj;2tl;;;1nNUKTA;",
    "2qq;1zrnAA;3I;3II;3U;3UU;3zqR;4RR;3CANDRA E;;3E;3AI;3CANDRA O;;3O;3AU;1nzo;;;1OM"]⟩,
  ⟨0xAE0, ["GUJARATIkzqRR;3LL;1zrnzqL;4LL;;;1shzz;2wd;2ze;2yq;2td;2tc;2xu;2xo;2sr;2vs;1qan;",
    "1RUPEEn"]⟩,
  ⟨0xAF9, ["GUJARATIkZHA;1nSUKUN;2SHADDA;2MADDAH;2THREE-DOT NUKTAa;2rgNUKTAa;",
    "2TWO-CIRCLE NUKTAa;;ORIYAnra;2qj;2zp;;1kA;2AA;2I;2II;2U;2UU;2zqR;3L;;;2E;2AI;;;2O;2AU;2uk;",
    "2ul;2GA;2GHA;2vr;2CA;2re;2JA;2JHA;2vy;2TTA;2zb;2DDA;2sa;2NNA;2yj;2yn;2DA;2DHA;2vo;;2wl;",
    "2wp;2BA;2BHA;2vb;2zv;2xb;;2uo;2LLA;;2VA;2xq;2SSA;2xj;2tl;;;1nNUKTA;2qq;1zrnAA;3I;3II;3U;",
    "3UU;3zqR;4RR;;;3E;3AI;;;3O;3AU;1nzo"]⟩,
  ⟨0xB55, ["ORIYAnOVERLINE;1AI LENGTHve;1AU LENGTHve"]⟩,
  ⟨0xB5C, ["ORIYAkRRA;2RHA;;2YYA;2zqRR;3LL;1zrnzqL;4LL;;;1shzz;2wd;2ze;2yq;2td;2tc;2xu;2xo;2sr;",
    "2vs;1ISSHAR;1kWA;1tewdwx;3tn;2yqwy;2wdSIXTEENTH;3ss;2yqSIXTEENTHS"]⟩,
  ⟨0xB82, ["TAMILnqj;2zp;;1kA;2AA;2I;2II;2U;2UU"]⟩,
  ⟨0xB8E, ["TAMILkE;2EE;2AI;;2O;2OO;2AU;2uk"]⟩,
  ⟨0xB99, ["TAMILkvr;2CA;;2JA;;2vy;2TTA"]⟩,
  ⟨0xBA3, ["TAMILkNNA;2yj"]⟩,
  ⟨0xBA8, ["TAMILkvo;2NNNA;2wl"]⟩,
  ⟨0xBAE, ["TAMILkvb;2zv;2xb;2RRA;2uo;2LLA;2LLLA;2VA;2xq;2SSA;2xj;2tl"]⟩,
  ⟨0xBBE, ["TAMILzrnAA;3I;3II;3U;3UU"]⟩,
  ⟨0xBC6, ["TAMILzrnE;3EE;3AI;;3O;3OO;3AU;1nzo;;;1OM"]⟩,
  ⟨0xBD7, ["TAMIL AU LENGTHve"]⟩,
  ⟨0xBE6, ["TAMILshzz;2wd;2ze;2yq;2td;2tc;2xu;2xo;2sr;2vs;1vxyl;2wdua;3yp;1DAYn;1MONTHn;1YEARn;",
    "1DEBITn;1CREDITn;1ASan;1RUPEEn;1vxn"]⟩,
  ⟨0xC00, ["TELUGUnrmraa;2ra;2qj;2zp;2rmqja;1kA;2AA;2I;2II;2U;2UU;2zqR;3L;;2E;2EE;2AI;;2O;2OO;",
    "2AU;2uk;2ul;2GA;2GHA;2vr;2CA;2re;2JA;2JHA;2vy;2TTA;2zb;2DDA;2sa;2NNA;2yj;2yn;2DA;2DHA;2vo;",
    ";2wl;2wp;2BA;2BHA;2vb;2zv;2xb;2RRA;2uo;2LLA;2LLLA;2VA;2xq;2SSA;2xj;2tl;;;1nNUKTA;2qq;",
    "1zrnAA;3I;3II;3U;3UU;3zqR;4RR;;3E;3EE;3AI;;3O;3OO;3AU;1nzo"]⟩,
  ⟨0xC55, ["TELUGU LENGTHve;1AI LENGTHve;;1kTSA;2DZA;2RRRA;;;2NAKAARA POLLU;;;2zqRR;3LL;",
    "1zrnzqL;4LL;;;1shzz;2wd;2ze;2yq;2td;2tc;2xu;2xo;2sr;2vs"]⟩,
  ⟨0xC77, ["TELUGUnSIDDHAM;1teshzzFOR ODD POWERSvztd;3wdFOR ODD POWERSvztd;",
    "3zeFOR ODD POWERSvztd;3yqFOR ODD POWERSvztd;3wdFOR EVEN POWERSvztd;3zeFOR EVEN POWERSvztd;",
    "3yqFOR EVEN POWERSvztd;1nTUUMU;KANNADAnSPACINGra;2ra;2qj;2zp;2SIDDHAM;1kA;2AA;2I;2II;2U;",
    "2UU;2zqR;3L;;2E;2EE;2AI;;2O;2OO;2AU;2uk;2ul;2GA;2GHA;2vr;2CA;2re;2JA;2JHA;2vy;2TTA;2zb;",
    "2DDA;2sa;2NNA;2yj;2yn;2DA;2DHA;2vo;;2wl;2wp;2BA;2BHA;2vb;2zv;2xb;2RRA;2uo;2LLA;;2VA;2xq;",
    "2SSA;2xj;2tl;;;1nNUKTA;2qq;1zrnAA;3I;3II;3U;3UU;3zqR;4RR;;3E;3EE;3AI;;3O;3OO;3AU;1nzo"]⟩,
  ⟨0xCD5, ["KANNADA LENGTHve;1AI LENGTHve"]⟩,
  ⟨0xCDD, ["KANNADAkNAKAARA POLLU;2FA;;2zqRR;3LL;1zrnzqL;4LL;;;1shzz;2wd;2ze;2yq;2td;2tc;2xu;",
    "2xo;2sr;2vs;;1nJIHVAMULIYA;2UPADHMANIYA"]⟩,
  ⟨0xD00, ["MALAYALAMnrmqja;2ra;2qj;2zp;1kVEDICqj;2A;2AA;2I;2II;2U;2UU;2zqR;3L;;2E;2EE;2AI;;2O;",
    "2OO;2AU;2uk;2ul;2GA;2GHA;2vr;2CA;2re;2JA;2JHA;2vy;2TTA;2zb;2DDA;2sa;2NNA;2yj;2yn;2DA;2DHA;",
    "2vo;2NNNA;2wl;2wp;2BA;2BHA;2vb;2zv;2xb;2RRA;2uo;2LLA;2LLLA;2VA;2xq;2SSA;2xj;2tl;2TTTA;",
    "1nznqrzo;2CIRCULARzo;2qq;1zrnAA;3I;3II;3U;3UU;3zqR;4RR;;3E;3EE;3AI;;3O;3OO;3AU;1nzo;",
    "1ksjREPH;1nPARA"]⟩,
  ⟨0xD54, ["MALAYALAMkCHILLU M;3Y;3LLL;1AU LENGTHve;1tewdONE-HUNDRED-AND-SIXTIETH;3FORTIETH;",
    "2yqEIGHTIETHS;2wdTWENTIETH;3TENTH;2yqTWENTIETHS;2wdFIFTH;1kqmII;2zqRR;3LL;1zrnzqL;4LL;;;",
    "1shzz;2wd;2ze;2yq;2td;2tc;2xu;2xo;2sr;2vs;1vxyl;2wdua;3yp;1tewdwx;3tn;2yqwy;2wdSIXTEENTH;",
    "3ss;2yqSIXTEENTHS;1DATEve;1kCHILLU NN;3N;3RR;3L;3LL;3K;;SINHALAnra;2ANUSVARAYA;2VISARGAYA;",
    ";1kAYANNA;2AAYANNA;2AEYANNA;2AEEYANNA;2IYANNA;2IIYANNA;2UYANNA;2UUYANNA;2IRUYANNA;",
    "2IRUUYANNA;2ILUYANNA;2ILUUYANNA;2EYANNA;2EEYANNA;2AIYANNA;2OYANNA;2OOYANNA;2AUYANNA"]⟩,
  ⟨0xD9A, ["SINHALAkALPAPRAANA KAYANNA;2MAHAAPRAANA KAYANNA;2ALPAPRAANA GAYANNA;",
    "2MAHAAPRAANA GAYANNA;2KANTAJA NAASIKYAYA;2SANYAKA GAYANNA;2ALPAPRAANA CAYANNA;",
    "2MAHAAPRAANA CAYANNA;2ALPAPRAANA JAYANNA;2MAHAAPRAANA JAYANNA;2TAALUJA NAASIKYAYA;",
    "3SANYOOGA NAAKSIKYAYA;2SANYAKA JAYANNA;2ALPAPRAANA TTAYANNA;2MAHAAPRAANA TTAYANNA;",
    "2ALPAPRAANA DDAYANNA;2MAHAAPRAANA DDAYANNA;2MUURDHAJA NAYANNA;2SANYAKA DDAYANNA;",
    "2ALPAPRAANA TAYANNA;2MAHAAPRAANA TAYANNA;2ALPAPRAANA DAYANNA;2MAHAAPRAANA DAYANNA;",
    "2DANTAJA NAYANNA;;2SANYAKA DAYANNA;2ALPAPRAANA PAYANNA;2MAHAAPRAANA PAYANNA;",
    "2ALPAPRAANA BAYANNA;2MAHAAPRAANA BAYANNA;2MAYANNA;2AMBA BAYANNA;2YAYANNA;2RAYANNA;;",
    "2DANTAJA LAYANNA;;;2VAYANNA;2TAALUJA SAYANNA;2MUURDHAJA SAYANNA;2DANTAJA SAYANNA;2HAYANNA;",
    "2MUURDHAJA LAYANNA;2FAYANNA"]⟩,
  ⟨0xDCA, ["SINHALAnAL-LAKUNA"]⟩,
  ⟨0xDCF, ["SINHALAzrnAELA-PILLA;3KETTI AEDA-PILLA;3DIGA AEDA-PILLA;3KETTI IS-PILLA;",
    "3DIGA IS-PILLA;3KETTI PAA-PILLA;;3DIGA PAA-PILLA;;3GAETTA-PILLA;3KOMBUVA;3DIGA KOMBUVA;",
    "3KOMBU DEKA;3KOMBUVA HAA AELA-PILLA;5DIGA AELA-PILLA;5GAYANUKITTA;3GAYANUKITTA"]⟩,
  ⟨0xDE6, ["SINHALA LITHshzz;3wd;3ze;3yq;3td;3tc;3xu;3xo;3sr;3vs;;;1zrnDIGA GAETTA-PILLA;",
    "4GAYANUKITTA;1wvKUNDDALIYA"]⟩,
  ⟨0xE01, ["THAI CHARACTER KO KAI;2KHO KHAI;3KHUAT;3KHWAI;3KHON;3RAKHANG;2NGO NGU;2CHO CHAN;",
    "3CHING;3CHANG;2SO SO;2CHO CHOE;2YO YING;2DO CHADA;2yuPATAK;2THO THAN;3NANGMONTHO;3PHUTHAO;",
    "2NO NEN;2DO DEK;2yuTAO;2THO THUNG;3THAHAN;3THONG;2NO NU;2BO BAIMAI;2PO PLA;2PHO PHUNG;",
    "2FO FA;2PHO PHAN;2FO FAN;2PHO SAMPHAO;2MOvb;2YO YAK;2RO RUA;2RU;2LO LING;2LU;2WO WAEN;",
    "2SO SALA;3RUSI;3SUA;2HO HIP;2LO CHULA;2O ANG;2HO NOKHUK;2PAIYANNOI;2SARA A;2MAI HAN-AKAT;",
    "2SARA AA;3AM;3I;3II;3UE;3UEE;3U;3UU;2PHINTHU"]⟩,
  ⟨0xE3F, ["THAI CURRENCYyiBAHT;1CHARACTER SARA E;3AE;3O;3AI MAIMUAN;4MAIMALAI;2LAKKHANGYAO;",
    "2MAIYAMOK;2MAITAIKHU;2MAI EK;3THO;3TRI;3CHATTAWA;2THANTHAKHAT;2NIKHAHIT;2YAMAKKAN;",
    "2FONGMAN;1shzz;2wd;2ze;2yq;2td;2tc;2xu;2xo;2sr;2vs;1CHARACTER ANGKHANKHU;2KHOMUT"]⟩,
  ⟨0xE81, ["LAOkKO;2KHO SUNG;;3TAM;;2PALI GHA;2NGO;2CO;2PALIre;2SO TAM;;2PALI JHA;2NYO;2PALIvy;",
    "3TTA;3zb;3DDA;3sa;3NNA;2DO;2yu;2THO SUNG;3TAM;2PALI DHA;2NO;2BO;2PO;2PHO SUNG;2FO TAM;",
    "2PHO TAM;2FO SUNG;2PALI BHA;2MO;2YO;2LO LING;;3LOOT;;2WO;2SANSKRITxq;3SSA;2SO SUNG;",
    "2HO SUNG;2PALI LLA;2O;2HO TAM;1ELLIPSIS;1zrnA;3MAI KAN;3AA;3AM;3I;3II;3Y;3YY;3U;3UU;",
    "1nPALIzo;1zrnMAI KON;1SEMIVOWELnLO;3NYO;;;1zrnE;3EI;3O;3AY;3AI;;1KOuo;;1yvMAI EK;3THO;3TI;",
    "3CATAWA;1CANCELLATIONve;1NIGGAHITA;;;1shzz;2wd;2ze;2yq;2td;2tc;2xu;2xo;2sr;2vs;;;1HO NO;",
    "2MO;1kKHMU GO;3NYO"]⟩,
  ⟨0xF00, ["TIBETANyhOM;1veGTER YIG MGO TRUNCATED A;5-UM RNAM BCADvb;6GTER TSHEGvb;",
    "2udYIG MGO MDUNvb;2CLOSING YIG MGO SGABvb;2CARET YIG MGO PHUR SHADvb;",
    "2YIG MGO TSHEG SHADvb;2SBRUL SHAD;2BSKUR YIG MGO;2BKA- SHOG YIG MGO;2INTERSYLLABIC TSHEG;",
    "2DELIMITER TSHEG BSTAR;2SHAD;2NYIS SHAD;2TSHEG SHAD;2NYIS TSHEG SHAD;",
    "2RIN CHEN SPUNGS SHAD;2RGYA GRAM SHAD;2CARET -DZUD RTAGS MEuyCAN;2GTER TSHEG;",
    "1LOGOTYPEnCHAD RTAGS;3LHAG RTAGS;1ASTROLOGICALnSGRA GCAN -CHAR RTAGS;3-KHYUDwl;",
    "3SDONG TSHUGS;1nRDEL DKAR GCIG;4GNYIS;4GSUM;3NAG GCIG;4GNYIS;3DKAR RDEL NAG;1shzz;2wd;2ze;",
    "2yq;2td;2tc;2xu;2xo;2sr;2vs;2tnwd;3ze;3yq;3td;3tc;3xu;3xo;3sr;3vs;3zz;1veBSDUS RTAGS;",
    "2NGAS BZUNG NYI ZLA;2CARET -DZUD RTAGS BZHI MIG CAN;2NGAS BZUNG SGOR RTAGS;2CHE MGO;",
    "2TSA -PHRU;2GUG RTAGS GYON;4GYAS;2ANG KHANG GYON;4GYAS;1nYAR TSHES;2MAR TSHES;1kuk;2ul;",
    "2GA;2GHA;2vr;2CA;2re;2JA;;2vy;2TTA;2zb;2DDA;2sa;2NNA;2yj;2yn;2DA;2DHA;2vo;2wl;2wp;2BA;",
    "2BHA;2vb;2TSA;2TSHA;2DZA;2DZHA;2WA;2ZHA;2ZA;2-A;2zv;2xb;2uo;2xq;2SSA;2xj;2tl;2A;2KSSA;",
    "2FIXED-FORMxb;2KKA;2RRA"]⟩,
  ⟨0xF71, ["TIBETANzrnAA;3I;3II;3U;3UU;3zqR;4RR;4L;4LL;3E;3EE;3O;3OO;1nRJES SUvrRO;2RNAM BCAD;",
    "1zrnxfI;4II;1nNYI ZLA NAA DA;2SNA LDAN;1veHALANTA;2PALUTA;1nLCI RTAGS;2YANG RTAGS;",
    "2LCE TSA CAN;2MCHU CAN;2GRU CAN RGYINGS;3MED RGYINGS;2uhMCHU CAN;1SUBJOINEDnLCE TSA CAN;",
    "3MCHU CAN;3uhMCHU CAN;2kuk;3ul;3GA;3GHA;3vr;3CA;3re;3JA;;3vy;3TTA;3zb;3DDA;3sa;3NNA;3yj;",
    "3yn;3DA;3DHA;3vo;3wl;3wp;3BA;3BHA;3vb;3TSA;3TSHA;3DZA;3DZHA;3WA;3ZHA;3ZA;3-A;3zv;3xb;3uo;",
    "3xq;3SSA;3xj;3tl;3A;3KSSA;3FIXED-FORM WA;4zv;4xb;;1KU RUul;4BZHI MIG CAN;",
    "1CANTILLATIONntvBEAT;3uvBEAT;3CANG TE-U;3SBUB -CHAL;1yiDRIL BU;2RDO RJE;2PADMA GDAN;",
    "2RDO RJE RGYA GRAM;2PHURwl;2NOR BU;4NYIS -KHYIL;4GSUM -KHYIL;4BZHI -KHYIL;;",
    "1nRDEL NAG RDEL DKAR;4GSUM;1veBSKA- SHOG GI MGO RGYAN;2MNYAM YIG GI MGO RGYAN;2NYIS TSHEG;",
    "2udBRDA RNYING YIG MGO MDUNvb;2CLOSING BRDA RNYING YIG MGO SGABvb;RIGHT-FACING SVASTIn;",
    "LEFT-FACING SVASTIn;RIGHT-FACING SVASTInpsk;LEFT-FACING SVASTInpsk;",
    "TIBETANveLEADING MCHAN RTAGS;2TRAILING MCHAN RTAGS"]⟩,
  ⟨0x1000, ["MYANMARkuk;2ul;2GA;2GHA;2vr;2CA;2re;2JA;2JHA;2vy;2NNYA;2TTA;2zb;2DDA;2sa;2NNA;2yj;",
    "2yn;2DA;2DHA;2vo;2wl;2wp;2BA;2BHA;2vb;2zv;2xb;2uo;2WA;2xj;2tl;2LLA;2A;2SHAN A;2I;2II;2U;",
    "2UU;2E;2MON E;2O;2AU;1zrnTALL AA;3AA;3I;3II;3U;3UU;3E;3AI;3MON II;4O;3Ea;1nqj;2sjd;2zp;",
    "2zo;2ASAT;1rpnvgzv;4xb;4WA;4tl;1kGREATxj;1shzz;2wd;2ze;2yq;2td;2tc;2xu;2xo;2sr;2vs;1nuxxm;",
    "2xm;1yiLOCATIVE;2COMPLETED;2AFOREMENTIONED;2GENITIVE;1kxq;2SSA;2zqR;3RR;3L;3LL;1zrnzqR;",
    "4RR;4L;4LL;1kMONvr;3JHA;3BBA;3BBE;1rpnMONvgvo;5vb;5uo;1kSGAW KARENxq;1zrnSGAW KAREN EU;",
    "1yvveSGAW KAREN HATHI;5KE PHO;1kWESTERN PWO KARENyn;5PWA;1zrnWESTERN PWO KAREN EU;6UE;",
    "1nWESTERN PWO KAREN TONE-1;5TONE-2;5TONE-3;5TONE-4;5TONE-5;1kEASTERN PWO KAREN NNA;5YWA;",
    "5GHWA;1zrnGEBA KAREN I;3KAYAH OE;4U;4EE;1kSHANuk;3ul;3GA;3CA;3ZA;3vy;3DA;3vo;3wp;3FA;3BA;",
    "3yn;3tl;1rpnSHANvgWA;1zrnSHAN AA;4E;5a;4gY;1nSHAN TONE-2;3TONE-3;3TONE-5;3TONE-6;",
    "3COUNCIL TONE-2;4TONE-3;4EMPHATICyv;1kRUMAI PALAUNG FA;1nRUMAI PALAUNG TONE-5;1SHANshzz;",
    "3wd;3ze;3yq;3td;3tc;3xu;3xo;3sr;3vs;1nKHAMTI TONE-1;3TONE-3;1zrnAITON A;4AI;1yiSHANwd;3sy;",
    "GEORGIANekAN;3BAN;3GAN;3DON;3EN;3VIN;3ZEN;3TAN;3IN;3KAN;3LAS;3MAN;3NAR;3ON;3PAR;3ZHAR;",
    "3RAE;3SAN;3TAR;3UN;3PHAR;3KHAR;3GHAN;3QAR;3SHIN;3CHIN;3CAN;3JIL;3CIL;3CHAR;3XAN;3JHAN;",
    "3HAE;3HE;3HIE;3WE;3HAR;3HOE;;3YN"]⟩,
  ⟨0x10CD, ["GEORGIANekAEN;;;1kAN;2BAN;2GAN;2DON;2EN;2VIN;2ZEN;2TAN;2IN;2KAN;2LAS;2MAN;2NAR;",
    "2ON;2PAR;2ZHAR;2RAE;2SAN;2TAR;2UN;2PHAR;2KHAR;2GHAN;2QAR;2SHIN;2CHIN;2CAN;2JIL;2CIL;2CHAR;",
    "2XAN;2JHAN;2HAE;2HE;2HIE;2WE;2HAR;2HOE;2FI;2YN;2ELIFI;2zcGAN;2AIN;1PARAGRAPHxn;",
    "vkkGEORGIAN NAR;GEORGIANkAEN;2HARDn;2LABIALn;HANGUL CHOSEONG KIYEOK;2SSANGKIYEOK;2NIEUN;",
    "2TIKEUT;2SSANGTIKEUT;2RIEUL;2MIEUM;2PIEUP;2SSANGPIEUP;2SIOS;2SSANGSIOS;2IEUNG;2CIEUC;",
    "2SSANGCIEUC;2CHIEUCH;2KHIEUKH;2THIEUTH;2PHIEUPH;2HIEUH;2NIEUN-KIYEOK;2SSANGNIEUN;",
    "2NIEUN-TIKEUT;2NIEUN-PIEUP;2TIKEUT-KIYEOK;2RIEUL-NIEUN;2SSANGRIEUL;2RIEUL-HIEUH;",
    "2KAPYEOUNRIEUL;2MIEUM-PIEUP;2KAPYEOUNMIEUM;2PIEUP-KIYEOK;2PIEUP-NIEUN;2PIEUP-TIKEUT;",
    "2PIEUP-SIOS;2PIEUP-SIOS-KIYEOK;2PIEUP-SIOS-TIKEUT;2PIEUP-SIOS-PIEUP;2PIEUP-SSANGSIOS;",
    "2PIEUP-SIOS-CIEUC;2PIEUP-CIEUC;2PIEUP-CHIEUCH;2PIEUP-THIEUTH;2PIEUP-PHIEUPH;",
    "2KAPYEOUNPIEUP;2KAPYEOUNSSANGPIEUP;2SIOS-KIYEOK;2SIOS-NIEUN;2SIOS-TIKEUT;2SIOS-RIEUL;",
    "2SIOS-MIEUM;2SIOS-PIEUP;2SIOS-PIEUP-KIYEOK;2SIOS-SSANGSIOS;2SIOS-IEUNG;2SIOS-CIEUC;",
    "2SIOS-CHIEUCH;2SIOS-KHIEUKH;2SIOS-THIEUTH;2SIOS-PHIEUPH;2SIOS-HIEUH;2CHITUEUMSIOS;",
    "2CHITUEUMSSANGSIOS;2CEONGCHIEUMSIOS;2CEONGCHIEUMSSANGSIOS;2PANSIOS;2IEUNG-KIYEOK;",
    "2IEUNG-TIKEUT;2IEUNG-MIEUM;2IEUNG-PIEUP;2IEUNG-SIOS;2IEUNG-PANSIOS;2SSANGIEUNG;",
    "2IEUNG-CIEUC;2IEUNG-CHIEUCH;2IEUNG-THIEUTH;2IEUNG-PHIEUPH;2YESIEUNG;2CIEUC-IEUNG;",
    "2CHITUEUMCIEUC;2CHITUEUMSSANGCIEUC;2CEONGCHIEUMCIEUC;2CEONGCHIEUMSSANGCIEUC;",
    "2CHIEUCH-KHIEUKH;2CHIEUCH-HIEUH;2CHITUEUMCHIEUCH;2CEONGCHIEUMCHIEUCH;2PHIEUPH-PIEUP;",
    "2KAPYEOUNPHIEUPH;2SSANGHIEUH;2YEORINHIEUH;2KIYEOK-TIKEUT;2NIEUN-SIOS;2NIEUN-CIEUC;",
    "2NIEUN-HIEUH;2TIKEUT-RIEUL;2FILLER;1JUNGSEONG FILLER;2A;2AE;2zv;2YAE;2EO;2E;2YEO;2YE;2O;",
    "2WA;2WAE;2OE;2YO;2U;2WEO;2WE;2WI;2YU;2EU;2YI;2I;2A-O;2A-U;2YA-O;2YA-YO;2EO-O;2EO-U;2EO-EU;",
    "2YEO-O;2YEO-U;2O-EO;2O-E;2O-YE;2O-O;2O-U;2YO-YA;2YO-YAE;2YO-YEO;2YO-O;2YO-I;2U-A;2U-AE;",
    "2U-EO-EU;2U-YE;2U-U;2YU-A;2YU-EO;2YU-E;2YU-YEO;2YU-YE;2YU-U;2YU-I;2EU-U;2EU-EU;2YI-U;2I-A;",
    "2I-YA;2I-O;2I-U;2I-EU;2I-ARAEA;2ARAEA;2ARAEA-EO;2ARAEA-U;2ARAEA-I;2SSANGARAEA;2A-EU;2YA-U;",
    "2YEO-YA;2O-YA;2O-YAE;1JONGSEONG KIYEOK;2SSANGKIYEOK;2KIYEOK-SIOS;2NIEUN;2NIEUN-CIEUC;",
    "2NIEUN-HIEUH;2TIKEUT;2RIEUL;2RIEUL-KIYEOK;2RIEUL-MIEUM;2RIEUL-PIEUP;2RIEUL-SIOS;",
    "2RIEUL-THIEUTH;2RIEUL-PHIEUPH;2RIEUL-HIEUH;2MIEUM;2PIEUP;2PIEUP-SIOS;2SIOS;2SSANGSIOS;",
    "2IEUNG;2CIEUC;2CHIEUCH;2KHIEUKH;2THIEUTH;2PHIEUPH;2HIEUH;2KIYEOK-RIEUL;",
    "2KIYEOK-SIOS-KIYEOK;2NIEUN-KIYEOK;2NIEUN-TIKEUT;2NIEUN-SIOS;2NIEUN-PANSIOS;2NIEUN-THIEUTH;",
    "2TIKEUT-KIYEOK;2TIKEUT-RIEUL;2RIEUL-KIYEOK-SIOS;2RIEUL-NIEUN;2RIEUL-TIKEUT;",
    "2RIEUL-TIKEUT-HIEUH;2SSANGRIEUL;2RIEUL-MIEUM-KIYEOK;2RIEUL-MIEUM-SIOS;2RIEUL-PIEUP-SIOS;",
    "2RIEUL-PIEUP-HIEUH;2RIEUL-KAPYEOUNPIEUP;2RIEUL-SSANGSIOS;2RIEUL-PANSIOS;2RIEUL-KHIEUKH;",
    "2RIEUL-YEORINHIEUH;2MIEUM-KIYEOK;2MIEUM-RIEUL;2MIEUM-PIEUP;2MIEUM-SIOS;2MIEUM-SSANGSIOS;",
    "2MIEUM-PANSIOS;2MIEUM-CHIEUCH;2MIEUM-HIEUH;2KAPYEOUNMIEUM;2PIEUP-RIEUL;2PIEUP-PHIEUPH;",
    "2PIEUP-HIEUH;2KAPYEOUNPIEUP;2SIOS-KIYEOK;2SIOS-TIKEUT;2SIOS-RIEUL;2SIOS-PIEUP;2PANSIOS;",
    "2IEUNG-KIYEOK;2IEUNG-SSANGKIYEOK;2SSANGIEUNG;2IEUNG-KHIEUKH;2YESIEUNG;2YESIEUNG-SIOS;",
    "2YESIEUNG-PANSIOS;2PHIEUPH-PIEUP;2KAPYEOUNPHIEUPH;2HIEUH-NIEUN;2HIEUH-RIEUL;2HIEUH-MIEUM;",
    "2HIEUH-PIEUP;2YEORINHIEUH;2KIYEOK-NIEUN;2KIYEOK-PIEUP;2KIYEOK-CHIEUCH;2KIYEOK-KHIEUKH;",
    "2KIYEOK-HIEUH;2SSANGNIEUN;ETHIOPICyhtl;2HU;2HI;2HAA;2HEE;2HE;2HO;2HOA;2uo;2LU;2LI;2LAA;",
    "2LEE;2LE;2LO;2LWA;2HHA;2HHU;2HHI;2HHAA;2HHEE;2HHE;2HHO;2HHWA;2vb;2MU;2MI;2MAA;2MEE;2ME;",
    "2MO;2MWA;2SZA;2SZU;2SZI;2SZAA;2SZEE;2SZE;2SZO;2SZWA;2xb;2RU;2RI;2RAA;2REE;2RE;2RO;2RWA;",
    "2xj;2SU;2SI;2SAA;2SEE;2SE;2SO;2SWA;2xq;2SHU;2SHI;2SHAA;2SHEE;2SHE;2SHO;2SHWA;2QA;2QU;2QI;",
    "2QAA;2QEE;2QE;2QO;2QOA;2QWA;;2QWI;2QWAA;2QWEE;2QWE;;;2QHA;2QHU;2QHI;2QHAA;2QHEE;2QHE;2QHO;",
    ";2QHWA;;2QHWI;2QHWAA;2QHWEE;2QHWE;;;2BA;2BU;2BI;2BAA;2BEE;2BE;2BO;2BWA;2VA;2VU;2VI;2VAA;",
    "2VEE;2VE;2VO;2VWA;2yj;2TU;2TI;2TAA;2TEE;2TE;2yu;2TWA;2CA;2CU;2CI;2CAA;2CEE;2CE;2CO;2CWA;",
    "2XA;2XU;2XI;2XAA;2XEE;2XE;2XO;2XOA;2XWA;;2XWI;2XWAA;2XWEE;2XWE;;;2vo;2NU;2NI;2NAA;2NEE;",
    "2NE;2NO;2NWA;2vy;2NYU;2NYI;2NYAA;2NYEE;2NYE;2NYO;2NYWA;2tgA;3U;3I;3AA;3EE;3E;3O;3WA;2uk;",
    "2KU;2KI;2KAA;2KEE;2KE;2KO;2KOA;2KWA;;2KWI;2KWAA;2KWEE;2KWE;;;2KXA;2KXU;2KXI;2KXAA;2KXEE;",
    "2KXE;2KXO;;2KXWA;;2KXWI;2KXWAA;2KXWEE;2KXWE;;;2WA;2WU;2WI;2WAA;2WEE;2WE;2WO;2WOA;",
    "2PHARYNGEAL A;3U;3I;3AA;3EE;3E;3O;;2ZA;2ZU;2ZI;2ZAA;2ZEE;2ZE;2ZO;2ZWA;2ZHA;2ZHU;2ZHI;",
    "2ZHAA;2ZHEE;2ZHE;2ZHO;2ZHWA;2zv;2YU;2YI;2YAA;2YEE;2YE;2YO;2YOA;2DA;2DU;2DI;2DAA;2DEE;2DE;",
    "2DO;2DWA;2DDA;2DDU;2DDI;2DDAA;2DDEE;2DDE;2DDO;2DDWA;2JA;2JU;2JI;2JAA;2JEE;2JE;2JO;2JWA;",
    "2GA;2GU;2GI;2GAA;2GEE;2GE;2GO;2GOA;2GWA;;2GWI;2GWAA;2GWEE;2GWE;;;2GGA;2GGU;2GGI;2GGAA;",
    "2GGEE;2GGE;2GGO;2GGWAA;2yn;2THU;2THI;2THAA;2THEE;2THE;2THO;2THWA;2re;2CHU;2CHI;2CHAA;",
    "2CHEE;2CHE;2CHO;2CHWA;2wp;2PHU;2PHI;2PHAA;2PHEE;2PHE;2PHO;2PHWA;2TSA;2TSU;2TSI;2TSAA;",
    "2TSEE;2TSE;2TSO;2TSWA;2TZA;2TZU;2TZI;2TZAA;2TZEE;2TZE;2TZO;2TZOA;2FA;2FU;2FI;2FAA;2FEE;",
    "2FE;2FO;2FWA;2wl;2PU;2PI;2PAA;2PEE;2PE;2PO;2PWA;2RYA;2MYA;2FYA;;;1rmGEMINATIONbzrLENGTHve;",
    "2zrLENGTHve;2GEMINATIONve;1xmve;1WORDSPACE;1tfyb;1rn;1SEMICOLON;1rl;1PREFACErl;1wzve;",
    "1PARAGRAPHxn;1shwd;2ze;2yq;2td;2tc;2xu;2xo;2sr;2vs;1vxyl;2zd;2yo;2FORTY;2ta;2SIXTY;2xp;",
    "2EIGHTY;2vt;2ua;2ylyp"]⟩,
  ⟨0x1380, ["ETHIOPICyhSEBATBEIT MWA;2MWI;2MWEE;2MWE;2SEBATBEIT BWA;2BWI;2BWEE;2BWE;",
    "2SEBATBEIT FWA;2FWI;2FWEE;2FWE;2SEBATBEIT PWA;2PWI;2PWEE;2PWE;1TONALveYIZET;3DERET;",
    "3RIKRIK;3xrRIKRIK;3DIFAT;3KENAT;3CHIRET;3HIDET;3DERET-HIDET;3KURT"]⟩,
  ⟨0x13A0, ["CHEROKEEkA;2E;2I;2O;2U;2V;2GA;2uk;2GE;2GI;2GO;2GU;2GV;2tl;2HE;2HI;2HO;2HU;2HV;2uo;",
    "2LE;2LI;2LO;2LU;2LV;2vb;2ME;2MI;2MO;2MU;2vo;2HNA;2NAH;2NE;2NI;2NO;2NU;2NV;2QUA;2QUE;2QUI;",
    "2QUO;2QUU;2QUV;2xj;2S;2SE;2SI;2SO;2SU;2SV;2DA;2yj;2DE;2TE;2DI;2TI;2DO;2DU;2DV;2DLA;2TLA;",
    "2TLE;2TLI;2TLO;2TLU;2TLV;2TSA;2TSE;2TSI;2TSO;2TSU;2TSV;2WA;2WE;2WI;2WO;2WU;2WV;2zv;2YE;",
    "2YI;2YO;2YU;2YV;2MV;;;1okYE;3YI;3YO;3YU;3YV;3MV;;;CANADIAN SYLLABICS HYPHEN;2E;2AAI;2I;",
    "2II;2O;2OO;2Y-CREE OO;2CARRIER EE;3I;2A;2AA;2WE;2ztWE;2WI;2ztWI;2WII;2ztWII;2WO;2ztWO;",
    "2WOO;2ztWOO;2NASKAPI WOO;2WA;2ztWA;2WAA;2ztWAA;2NASKAPI WAA;2AI;2Y-CREE W;2tgyb;2gqc;3th;",
    "3qwtnxh;3TOPtnxh;3ltnxh;3xh;3fqc;4xrznSTROKES;3vjsj;3xrtzyd;3wq;3snTACK;2EN;2IN;2ON;2AN;",
    "2PE;2PAAI;2PI;2PII;2PO;2POO;2Y-CREE POO;2CARRIER HEE;3HI;2wl;2PAA;2PWE;2ztPWE;2PWI;2ztPWI;",
    "2PWII;2ztPWII;2PWO;2ztPWO;2PWOO;2ztPWOO;2PWA;2ztPWA;2PWAA;2ztPWAA;2Y-CREE PWAA;2P;2ztP;",
    "2CARRIER H;2TE;2TAAI;2TI;2TII;2yu;2TOO;2Y-CREE TOO;2CARRIER DEE;3DI;2yj;2TAA;2TWE;2ztTWE;",
    "2TWI;2ztTWI;2TWII;2ztTWII;2ze;2ztze;2TWOO;2ztTWOO;2TWA;2ztTWA;2TWAA;2ztTWAA;2NASKAPI TWAA;",
    "2T;2TTE;2TTI;2TTO;2TTA;2KE;2KAAI;2KI;2KII;2KO;2KOO;2Y-CREE KOO;2uk;2KAA;2KWE;2ztKWE;2KWI;",
    "2ztKWI;2KWII;2ztKWII;2KWO;2ztKWO;2KWOO;2ztKWOO;2KWA;2ztKWA;2KWAA;2ztKWAA;2NASKAPI KWAA;2K;",
    "2KW;2SOUTH-SLAVEY KEH;3KIH;3KOH;3KAH;2CE;2CAAI;2CI;2CII;2CO;2COO;2Y-CREE COO;2CA;2CAA;",
    "2CWE;2ztCWE;2CWI;2ztCWI;2CWII;2ztCWII;2CWO;2ztCWO;2CWOO;2ztCWOO;2CWA;2ztCWA;2CWAA;2ztCWAA;",
    "2NASKAPI CWAA;2C;2SAYISI TH;2ME;2MAAI;2MI;2MII;2MO;2MOO;2Y-CREE MOO;2vb;2MAA;2MWE;2ztMWE;",
    "2MWI;2ztMWI;2MWII;2ztMWII;2MWO;2ztMWO;2MWOO;2ztMWOO;2MWA;2ztMWA;2MWAA;2ztMWAA;",
    "2NASKAPI MWAA;2M;2ztM;2MH;2ATHAPASCAN M;2SAYISI M;2NE;2NAAI;2NI;2NII;2NO;2NOO;2Y-CREE NOO;",
    "2vo;2NAA;2NWE;2ztNWE;2NWA;2ztNWA;2NWAA;2ztNWAA;2NASKAPI NWAA;2N;2CARRIER NG;2NH;2LE;2LAAI;",
    "2LI;2LII;2LO;2LOO;2Y-CREE LOO;2uo;2LAA;2LWE;2ztLWE;2LWI;2ztLWI;2LWII;2ztLWII;2LWO;2ztLWO;",
    "2LWOO;2ztLWOO;2LWA;2ztLWA;2LWAA;2ztLWAA;2L;2ztL;2vgL;2SE;2SAAI;2SI;2SII;2SO;2SOO;",
    "2Y-CREE SOO;2xj;2SAA;2SWE;2ztSWE;2SWI;2ztSWI;2SWII;2ztSWII;2SWO;2ztSWO;2SWOO;2ztSWOO;2SWA;",
    "2ztSWA;2SWAA;2ztSWAA;2NASKAPI SWAA;2S;2ATHAPASCAN S;2SW;2BLACKFOOT S;2MOOSE-CREE SK;",
    "2NASKAPI SKW;3S-W;3SPWA;3STWA;3SKWA;3SCWA;2SHE;2SHI;2SHII;2SHO;2SHOO;2xq;2SHAA;2SHWE;",
    "2ztSHWE;2SHWI;2ztSHWI;2SHWII;2ztSHWII;2SHWO;2ztSHWO;2SHWOO;2ztSHWOO;2SHWA;2ztSHWA;2SHWAA;",
    "2ztSHWAA;2SH;2YE;2YAAI;2YI;2YII;2YO;2YOO;2Y-CREE YOO;2zv;2YAA;2YWE;2ztYWE;2YWI;2ztYWI;",
    "2YWII;2ztYWII;2YWO;2ztYWO;2YWOO;2ztYWOO;2YWA;2ztYWA;2YWAA;2ztYWAA;2NASKAPI YWAA;2Y;",
    "2BIBLE-CREE Y;2ztY;2SAYISI YI;2RE;2R-CREE RE;2ztLE;2RAAI;2RI;2RII;2RO;2ROO;2ztLO;2xb;2RAA;",
    "2ztuo;2RWAA;2ztRWAA;2R;2ztR;2vgR;2FE;2FAAI;2FI;2FII;2FO;2FOO;2FA;2FAA;2FWAA;2ztFWAA;2F;",
    "2THE;2N-CREE THE;2THI;2N-CREE THI;2THII;2N-CREE THII;2THO;2THOO;2yn;2THAA;2THWAA;2ztTHWAA;",
    "2TH;2TTHE;2TTHI;2TTHO;2zb;2TTH;2TYE;2TYI;2TYO;2TYA;2NUNAVIK HE;3HI;3HII;3HO;3HOO;3tl;3HAA;",
    "3H;2NUNAVUT H;2HK;2QAAI;2QI;2QII;2QO;2QOO;2QA;2QAA;2Q;2TLHE;2TLHI;2TLHO;2TLHA;2ztRE;3RI;",
    "3RO;3xb;2NGAAI;2NGI;2NGII;2NGO;2NGOO;2vr;2NGAA;2NG;2NNG;2SAYISI SHE;3SHI;3SHO;3xq;",
    "2WOODS-CREE THE;3THI;3THO;3yn;3TH;2LHI;2LHII;2LHO;2LHOO;2LHA;2LHAA;2LH;2TH-CREE THE;3THI;",
    "3THII;3THO;3THOO;3yn;3THAA;3TH;2AIVILIK B;2BLACKFOOT E;3I;3O;3A;3WE;3WI;3WO;3WA;3NE;3NI;",
    "3NO;3vo;3KE;3KI;3KO;3uk;2SAYISI HE;3HI;3HO;3tl;2CARRIER GHU;3GHO;3GHE;3GHEE;3GHI;3GHA;3RU;",
    "3RO;3RE;3REE;3RI;3xb;3WU;3WO;3WE;3WEE;3WI;3WA;3HWU;3HWO;3HWE;3HWEE;3HWI;3HWA;3THU;3THO;",
    "3THE;3THEE;3THI;3yn;3TTU;3TTO;3TTE;3TTEE;3TTI;3TTA;3PU;3PO;3PE;3PEE;3PI;3wl;3P;3GU;3GO;",
    "3GE;3GEE;3GI;3GA;3KHU;3KHO;3KHE;3KHEE;3KHI;3ul;3KKU;3KKO;3KKE;3KKEE;3KKI;3KKA;3KK;3NU;3NO;",
    "3NE;3NEE;3NI;3vo;3MU;3MO;3ME;3MEE;3MI;3vb;3YU;3YO;3YE;3YEE;3YI;3zv;3JU;2SAYISI JU;",
    "2CARRIER JO;3JE;3JEE;3JI;2SAYISI JI;2CARRIER JA;3JJU;3JJO;3JJE;3JJEE;3JJI;3JJA;3LU;3LO;",
    "3LE;3LEE;3LI;3uo;3DLU;3DLO;3DLE;3DLEE;3DLI;3DLA;3LHU;3LHO;3LHE;3LHEE;3LHI;3LHA;3TLHU;",
    "3TLHO;3TLHE;3TLHEE;3TLHI;3TLHA;3TLU;3TLO;3TLE;3TLEE;3TLI;3TLA;3ZU;3ZO;3ZE;3ZEE;3ZI;3ZA;3Z;",
    "3udZ;3DZU;3DZO;3DZE;3DZEE;3DZI;3DZA;3SU;3SO;3SE;3SEE;3SI;3xj;3SHU;3SHO;3SHE;3SHEE;3SHI;",
    "3xq;3SH;3TSU;3TSO;3TSE;3TSEE;3TSI;3TSA;3CHU;3CHO;3CHE;3CHEE;3CHI;3re;3TTSU;3TTSO;3TTSE;",
    "3TTSEE;3TTSI;3TTSA;2CHIn;2tfyb;2QAI;2NGAI;2NNGI;2NNGII;2NNGO;2NNGOO;2NNGA;2NNGAA;",
    "2WOODS-CREE THWEE;3THWI;3THWII;3THWO;3THWOO;3THWA;3THWAA;3gTH;2BLACKFOOT W;OGHAM SPACEve;",
    "1kBEITH;2LUIS;2FEARN;2SAIL;2NION;2UATH;2DAIR;2TINNE;2COLL;2CEIRT;2MUIN;2GORT;2NGEADAL;",
    "2STRAIF;2RUIS;2AILM;2ONN;2UR;2EADHADH;2IODHADH;2EABHADH;2OR;2UILLEANN;2IFIN;2EAMHANCHOLL;",
    "2PEITH;1FEATHERve;1xfFEATHERve"]⟩,
  ⟨0x16A0, ["RUNICkFEHU FEOH FE F;2V;2URUZ UR U;2YR;2Y;2W;2THURISAZ THURS THORN;2ETH;2ANSUZ A;",
    "2OS O;2AC A;2AESC;2LONG-BRANCH-OSS O;2SHORT-TWIG-OSS O;2O;2OE;2ON;2RAIDO RAD REID R;",
    "2KAUNA;2CEN;2KAUN K;2G;2ENG;2GEBO GYFU G;2GAR;2WUNJO WYNN W;2HAGLAZ H;2HAEGL H;",
    "2LONG-BRANCH-HAGALL H;2SHORT-TWIG-HAGALL H;2NAUDIZ NYD NAUD N;2SHORT-TWIG-NAUD N;",
    "2DOTTED-N;2ISAZ IS ISS I;2E;2JERAN J;2GER;2LONG-BRANCH-AR AE;2SHORT-TWIG-AR A;2IWAZ EOH;",
    "2PERTHO PEORTH P;2ALGIZ EOLHX;2SOWILO S;2SIGEL LONG-BRANCH-SOL S;2SHORT-TWIG-SOL S;2C;2Z;",
    "2TIWAZ TIR TYR T;2SHORT-TWIG-TYR T;2D;2BERKANAN BEORC BJARKAN B;2SHORT-TWIG-BJARKAN B;",
    "2DOTTED-P;2OPEN-P;2EHWAZ EH E;2MANNAZ MAN M;2LONG-BRANCH-MADR M;2SHORT-TWIG-MADR M;",
    "2LAUKAZ LAGU LOGR L;2DOTTED-L;2INGWAZ;2ING;2DAGAZ DAEG D;2OTHALAN ETHEL O;2EAR;2IOR;",
    "2CWEORTH;2CALC;2CEALC;2STAN;2LONG-BRANCH-YR;2SHORT-TWIG-YR;2ICELANDIC-YR;2Q;2X;1xtwv;",
    "1MULTIPLEwv;1rswv;1ARLAUGyi;1TVIMADURyi;1BELGTHORyi;1kK;2SH;2OO;2FRANKS CASKET OS;4IS;4EH;",
    "4AC;4AESC"]⟩,
  ⟨0x1700, ["TAGALOGkA;2I;2U;2uk;2GA;2vr;2yj;2DA;2vo;2wl;2BA;2vb;2zv;2xb;2uo;2WA;2xj;2tl;1zrnI;",
    "3U;1nzo;2PAMUDPOD"]⟩,
  ⟨0x171F, ["TAGALOGkqmxb;HANUNOOkA;2I;2U;2uk;2GA;2vr;2yj;2DA;2vo;2wl;2BA;2vb;2zv;2xb;2uo;2WA;",
    "2xj;2tl;1zrnI;3U;1nPAMUDPOD;PHILIPPINExtwv;1fwv"]⟩,
  ⟨0x1740, ["BUHIDkA;2I;2U;2uk;2GA;2vr;2yj;2DA;2vo;2wl;2BA;2vb;2zv;2xb;2uo;2WA;2xj;2tl;1zrnI;3U"]⟩,
  ⟨0x1760, ["TAGBANWAkA;2I;2U;2uk;2GA;2vr;2yj;2DA;2vo;2wl;2BA;2vb;2zv;;2uo;2WA;2xj;;1zrnI;3U"]⟩,
  ⟨0x1780, ["KHMERkuk;2ul;2KO;2KHO;2NGO;2CA;2re;2CO;2CHO;2NYO;2DA;2zb;2DO;2TTHO;2NNO;2yj;2yn;",
    "2yu;2THO;2NO;2BA;2wp;2PO;2PHO;2MO;2YO;2RO;2LO;2VO;2xq;2SSO;2xj;2tl;2uo;2QA;",
    "1INDEPENDENTzrQAQ;3QAA;3QI;3QII;3QU;3QUK;3QUU;3QUUV;3RY;3RYY;3LY;3LYY;3QE;3QAI;",
    "3QOO TYPEwd;5ze;3QAU;1zrINHERENT AQ;3AA;2nAA;3I;3II;3Y;3YY;3U;3UU;3UA;3OE;3zv;3IE;3E;3AE;",
    "3AI;3OO;3AU;1nNIKAHIT;2REAHMUK;2YUUKALEAPINTU;2MUUSIKATOAN;2TRIISAP;2BANTOC;2ROBAT;",
    "2TOANDAKHIAT;2KAKABAT;2AHSDA;2SAMYOK SANNYA;2VIRIAM;2COENG;2BATHAMASAT;2KHAN;2BARIYOOSAN;",
    "2CAMNUC PII KUUH;2LEK TOO;2BEYYAL;2PHNAEK MUAN;2KOOMUUT;1CURRENCYyiRIEL;1nAVAKRAHASANYA;",
    "2ATTHACAN;;;1shzz;2wd;2ze;2yq;2td;2tc;2xu;2xo;2sr;2vs"]⟩,
  ⟨0x17F0, ["KHMERyiLEK ATTAK SON;4MUOY;4PII;4BEI;4BUON;4PRAM;4PRAM-MUOY;4PRAM-PII;4PRAM-BEI;",
    "4PRAM-BUON"]⟩,
  ⟨0x1800, ["MONGOLIAN BIRGA;1ELLIPSIS;1rn;1tfyb;1rl;1tdsk;1TODO SOFT HYPHEN;",
    "1SIBEyhBOUNDARY MARKER;1MANCHUrn;2tfyb;1NIRUGU;1FREE VARIATION SELECTORwd;4ze;4yq;1zrxn;",
    "1FREE VARIATION SELECTORtd;1shzz;2wd;2ze;2yq;2td;2tc;2xu;2xo;2sr;2vs"]⟩,
  ⟨0x1820, ["MONGOLIANkA;2E;2I;2O;2U;2OE;2UE;2EE;2vo;2ANG;2BA;2wl;2QA;2GA;2vb;2uo;2xj;2xq;2yj;",
    "2DA;2re;2JA;2zv;2xb;2WA;2FA;2uk;2ul;2TSA;2ZA;2HAA;2ZRA;2LHA;2ZHI;2CHI;2TODOuyzrn;3E;3I;3O;",
    "3U;3OE;3UE;3ANG;3BA;3wl;3QA;3GA;3vb;3yj;3DA;3re;3JA;3TSA;3zv;3WA;3uk;3GAA;3HAA;3JIA;3NIA;",
    "3DZA;2SIBE E;3I;3IY;3UE;3U;3ANG;3uk;3GA;3tl;3wl;3xq;3yj;3DA;3JA;3FA;3GAA;3HAA;3TSA;3ZA;",
    "3RAA;3re;3ZHA;2MANCHU I;3uk;3xb;3FA;3ZHA;2repzesk"]⟩,
  ⟨0x1880, ["MONGOLIANkALI GALIqjwd;4zpwd;4DAMARU;4UBADAMA;4uhUBADAMA;4BALUDA;4yqBALUDA;4A;4I;",
    "4uk;4vr;4CA;4TTA;4zb;4DDA;4NNA;4yj;4DA;4wl;4wp;4SSA;4ZHA;4ZA;4AH;2TODO ALI GALIyj;5ZHA;",
    "2MANCHU ALI GALI GHA;5vr;5CA;5JHA;5TTA;5sa;5yj;5DHA;5SSA;5CYA;5ZHA;5ZA;2ALI GALItnU;5zv;",
    "2MANCHU ALI GALI BHA;2ALI GALI DAGALGA;2MANCHU ALI GALI LHA"]⟩,
  ⟨0x18B0, ["CANADIAN SYLLABICS OY;2AY;2AAY;2WAY;2POY;2PAY;2PWOY;2TAY;2KAY;2KWAY;2MAY;2NOY;",
    "2NAY;2LAY;2SOY;2SAY;2SHOY;2SHAY;2SHWOY;2YOY;2YAY;2RAY;2NWI;2OJIBWAY NWI;2NWII;",
    "2OJIBWAY NWII;2NWO;2OJIBWAY NWO;2NWOO;2OJIBWAY NWOO;2RWEE;2RWI;2RWII;2RWO;2RWOO;2RWA;",
    "2OJIBWAY P;3T;3K;3C;3M;3N;3S;3SH;2EASTERN W;2WESTERN W;2goxh;3xcsj;2R-CREE RWE;2ztLOO;",
    "3LAA;2THWE;2THWA;2TTHWE;2TTHOO;2TTHAA;2TLHWE;2TLHOO;2SAYISI SHWE;3SHOO;3HOO;2CARRIER GWU;",
    "3DENE GEE;3GAA;3GWA;2SAYISI JUU;2CARRIER JWA;2BEAVER DENE L;4R;2CARRIER DENTAL S"]⟩,
  ⟨0x1900, ["LIMBU VOWEL-CARRIERk;1kuk;2ul;2GA;2GHA;2vr;2CA;2re;2JA;2JHA;2YAN;2yj;2yn;2DA;2DHA;",
    "2vo;2wl;2wp;2BA;2BHA;2vb;2zv;2xb;2uo;2WA;2xq;2SSA;2xj;2tl;2GYAN;2TRA;;1zrnA;3I;3U;3EE;3AI;",
    "3OO;3AU;3E;3O;1SUBJOINEDkzv;3xb;3WA"]⟩,
  ⟨0x1930, ["LIMBUokuk;3vr;3qj;3yj;3vo;3wl;3vb;3xb;3uo;1nMUKPHRENG;2KEMPHRENG;2SA-I"]⟩,
  ⟨0x1940, ["LIMBUnLOO"]⟩,
  ⟨0x1944, ["LIMBUsyve;1wzve;1shzz;2wd;2ze;2yq;2td;2tc;2xu;2xo;2sr;2vs;TAI LEkuk;3XA;3vr;3TSA;",
    "3xj;3zv;3yj;3yn;3uo;3wl;3wp;3vb;3FA;3VA;3tl;3QA;3ul;3TSHA;3vo;3A;3I;3EE;3EH;3U;3OO;3O;3UE;",
    "3E;3AUE;3AI;;;3TONE-2;3TONE-3;3TONE-4;3TONE-5;3TONE-6"]⟩,
  ⟨0x1980, ["NEW TAI LUEktwQA;4uzQA;4twuk;5XA;5vr;4uzuk;5XA;5vr;4twTSA;5xj;5zv;4uzTSA;5xj;5zv;",
    "4twyj;5yn;5vo;4uzyj;5yn;5vo;4twwl;5wp;5vb;4uzwl;5wp;5vb;4twFA;5VA;5uo;4uzFA;5VA;5uo;4twtl;",
    "5DA;5BA;4uztl;5DA;5BA;4twKVA;5XVA;4uzKVA;5XVA;4twSUA;4uzSUA"]⟩,
  ⟨0x19B0, ["NEW TAI LUEzrnzrSHORTENER;5AA;5II;5U;5UU;5E;5AE;5O;5OA;5UE;5AY;5AAY;5UY;5OY;5OAY;",
    "5UEY;5IY;3kgV;5NG;5N;5M;5K;5D;5B;3yvMARK-1;4MARK-2"]⟩,
  ⟨0x19D0, ["NEW TAI LUEshzz;4wd;4ze;4yq;4td;4tc;4xu;4xo;4sr;4vs;3THAMshwd"]⟩,
  ⟨0x19DE, ["NEW TAI LUEnLAE;4LAEV;KHMERyiPATHAMASAT;2MUOY KOET;2PII KOET;2BEI KOET;2BUON KOET;",
    "2PRAM KOET;2PRAM-MUOY KOET;2PRAM-PII KOET;2PRAM-BEI KOET;2PRAM-BUON KOET;2DAP KOET;",
    "2DAP-MUOY KOET;2DAP-PII KOET;2DAP-BEI KOET;2DAP-BUON KOET;2DAP-PRAM KOET;2TUTEYASAT;",
    "2MUOY ROC;2PII ROC;2BEI ROC;2BUON ROC;2PRAM ROC;2PRAM-MUOY ROC;2PRAM-PII ROC;",
    "2PRAM-BEI ROC;2PRAM-BUON ROC;2DAP ROC;2DAP-MUOY ROC;2DAP-PII ROC;2DAP-BEI ROC;",
    "2DAP-BUON ROC;2DAP-PRAM ROC;BUGINESEkuk;2GA;2vr;2NGKA;2wl;2BA;2vb;2MPA;2yj;2DA;2vo;2NRA;",
    "2CA;2JA;2vy;2NYCA;2zv;2xb;2uo;2VA;2xj;2A;2tl;1zrnI;3U;3E;3O;3AE;;;1PALLAWA;1ENDvzxm;",
    "TAI THAMktwuk;4ul;4KXA;3uzuk;4KXA;4ul;3vr;3twCA;4re;3uzCA;4xj;4re;3vy;3RATA;3twRATHA;3DA;",
    "3uzRATHA;3RANA;3twyj;4yn;3uzyj;4yn;3vo;3BA;3twwl;4wp;4FA;3uzwl;4FA;4wp;3vb;3uzzv;3twzv;",
    "3xb;3RUE;3uo;3LUE;3WA;3twxq;4SSA;4xj;4tl;3LLA;3A;3uztl;3I;3II;3U;3UU;3EE;3OO;3LAE;",
    "3GREATxj;2rpnvgxb;5uo;4uoTANG LAI;2nMAI KANG LAI;2rpngvr;4uzwl;4twRATHA ORuzwl;4vb;4BA;",
    "4xj;;2nSAKOT;2zrnA;4MAI SAT;4AA;4TALL AA;4I;4II;4UE;4UUE;4U;4UU;4O;4OAd;4OY;4E;4AE;4OO;",
    "4AI;4THAM AI;4OAa;2nMAI KANG;3TONE-1;3TONE-2;3KHUEN TONE-3;4TONE-4;4TONE-5;3xbHAAM;",
    "3MAI SAM;3KHUEN-LUE KARAN;;;2rmrusj;2HORAshzz;4wd;4ze;4yq;4td;4tc;4xu;4xo;4sr;4vs"]⟩,
  ⟨0x1A90, ["TAI THAM THAMshzz;4wd;4ze;4yq;4td;4tc;4xu;4xo;4sr;4vs"]⟩,
  ⟨0x1AA0, ["TAI THAMnWIANG;3WIANGWAAK;3SAWAN;3KEOW;3HOY;3DOKMAI;3xfxiRANA;3MAI YAMOK;3KAAN;",
    "3KAANKUU;3SATKAAN;3SATKAANKUU;3HANG;3CAANG;;;rmDOUBLEDriqb;1DIAERESIS-RING;1INFINITY;1spc;",
    "1zasj;1X-Xd;1WIGGLYuwd;1weved;1fweved;1uvCENTRALIZATIONydd;1STRONG CENTRALIZATIONydd;",
    "1PARENTHESESa;1fPARENTHESESa;1PARENTHESESd;2wj;1uqokWd;4zcWd;1jwnaj;1lwnal;1jwndj;1lwndl;",
    "1xyBRACKETSa;1vxna;1uhfARCHa;1wqna;1fwqna;4d;1zaqcqb;1uqokueG;5R;5T"]⟩,
  ⟨0x1B00, ["BALINESEnULU RICEM;3CANDRA;2CECEK;2SURANG;2BISAH;1kAKARA;3TEDUNG;2IKARA;3TEDUNG;",
    "2UKARA;3TEDUNG;2xbREPA;4TEDUNG;2uoLENGA;4TEDUNG;2EKARA;2AIKARA;2OKARA;3TEDUNG;2uk;",
    "3MAHAPRANA;2GA;3GORA;2vr;2CA;3LACA;2JA;3JERA;2vy;2yjLATIK;3MURDA MAHAPRANA;",
    "2DA MURDA ALPAPRANA;4MAHAPRANA;2voRAMBAT;2yj;3TAWA;2DA;3MADU;2vo;2wl;3KAPAL;2BA;3KEMBANG;",
    "2vb;2zv;2xb;2uo;2WA;2xjSAGA;3SAPA;2xj;2tl;1nREREKAN;1zrnTEDUNG;3ULU;4SARI;3SUKU;4ILUT;",
    "3xbREPA;5TEDUNG;3uoLENGA;5TEDUNG;3TALING;4REPA;4TEDUNG;4REPA TEDUNG;3PEPET;4TEDUNG;",
    "1ADEG ADEG;1kKAF SASAK;2KHOT SASAK;2TZIR SASAK;2EF SASAK;2VE SASAK;2ZAL SASAK;",
    "2ASYURA SASAK;2qmJNYA"]⟩,
  ⟨0x1B50, ["BALINESEshzz;2wd;2ze;2yq;2td;2tc;2xu;2xo;2sr;2vs;1PANTI;1PAMADA;1WINDU;",
    "1CARIK PAMUNGKAH;2SIKI;2PAREREN;1PAMENENG;1MUSICALyiDONG;3DENG;3DUNG;3DANG;4SURANG;3DING;",
    "3DAENG;3DEUNG;3DAING;3DANG GEDE;3rmTEGEH;4ENDEP;4KEMPUL;4KEMPLI;4JEGOGAN;4KEMPULpJEGOGAN;",
    "4KEMPLIpJEGOGAN;4BENDE;4GONG;3RIGHT-HANDweDUG;5DAG;4rkTUK;5TAK;3LEFT-HANDwePANG;5PUNG;",
    "4rkPLAK;5PLUK;4wePING;1PANTI LANTANG;1PAMADA LANTANG;;SUNDANESEnPANYECEK;2PANGLAYAR;",
    "2PANGWISAD;1kA;2I;2U;2AE;2O;2E;2EU;2uk;2QA;2GA;2vr;2CA;2JA;2ZA;2vy;2yj;2DA;2vo;2wl;2FA;",
    "2VA;2BA;2vb;2zv;2xb;2uo;2WA;2xj;2XA;2tl;1rpnPAMINGKAL;3PANYAKRA;3PANYIKU;1zrnPANGHULU;",
    "3PANYUKU;3PANAELAENG;3PANOLONG;3PAMEPET;3PANEULEUNG;1nPAMAAEH;2zo;1rpnPASANGANvb;4WA;1kul;",
    "2SYA;1shzz;2wd;2ze;2yq;2td;2tc;2xu;2xo;2sr;2vs;1qq;1kREU;2LEU;2BHA;2gK;3M;BATAKkA;",
    "2SIMALUNGUN A;2tl;2SIMALUNGUNtl;2MANDAILINGtl;2BA;2KARO BA;2wl;2SIMALUNGUNwl;2vo;",
    "2MANDAILINGvo;2WA;2SIMALUNGUN WA;2PAKPAK WA;2GA;2SIMALUNGUN GA;2JA;2DA;2xb;2SIMALUNGUNxb;",
    "2vb;2SIMALUNGUNvb;2SOUTHERNyj;2NORTHERNyj;2xj;2SIMALUNGUNxj;2MANDAILINGxj;2zv;",
    "2SIMALUNGUNzv;2vr;2uo;2SIMALUNGUNuo;2vy;2CA;2NDA;2MBA;2I;2U;1nTOMPI;1zrnE;3PAKPAK E;3EE;",
    "3I;3KARO I;3O;3KARO O;3U;4FOR SIMALUNGUNxj;1rpnNG;3H;1PANGOLAT;1PANONGONAN"]⟩,
  ⟨0x1BFC, ["BATAKyiBINDUvoMETEK;3PINARBORAS;3JUDUL;3PANGOLAT;LEPCHAkuk;2KLA;2ul;2GA;2GLA;2vr;",
    "2CA;2re;2JA;2vy;2yj;2yn;2DA;2vo;2wl;2PLA;2wp;2FA;2FLA;2BA;2BLA;2vb;2MLA;2TSA;2TSHA;2DZA;",
    "2zv;2xb;2uo;2tl;2HLA;2VA;2xj;2xq;2WA;2A;1SUBJOINEDkzv;3xb;1zrnAA;3I;3O;3OO;3U;3UU;3E;",
    "1rpnK;3M;3L;3N;3P;3R;3T;3NYIN-DO;3KANG;1nRAN;2NUKTA"]⟩,
  ⟨0x1C3B, ["LEPCHAwvTA-ROL;2NYET THYOOM TA-ROL;2CER-WA;2TSHOOK CER-WA;2TSHOOK;1shzz;2wd;2ze;",
    "2yq;2td;2tc;2xu;2xo;2sr;2vs"]⟩,
  ⟨0x1C4D, ["LEPCHAkTTA;2zb;2DDA;OL CHIKIshzz;3wd;3ze;3yq;3td;3tc;3xu;3xo;3sr;3vs;2kuo;3AT;3AG;",
    "3ANG;3AL;3LAA;3AAK;3AAJ;3AAM;3AAW;3LI;3IS;3IH;3INY;3IR;3LU;3UC;3UD;3UNN;3UY;3LE;3EP;3EDD;",
    "3EN;3ERR;3LO;3OTT;3OB;3OV;3OH;2MU TTUDDAG;2GAAHLAA TTUDDAAG;2MU-GAAHLAA TTUDDAAG;2RELAA;",
    "2PHAARKAA;2AHAD;2wvMUCAAD;3fMUCAAD;CYRILLICokROUNDED VE;3LONG-LEGGED DE;3NARROW O;",
    "3WIDE ES;3TALL TE;3THREE-LEGGED TE;3TALL HARDn;4YAT;3UNBLENDED UK"]⟩,
  ⟨0x1C90, ["GEORGIAN MTAVRULIekAN;4BAN;4GAN;4DON;4EN;4VIN;4ZEN;4TAN;4IN;4KAN;4LAS;4MAN;4NAR;",
    "4ON;4PAR;4ZHAR;4RAE;4SAN;4TAR;4UN;4PHAR;4KHAR;4GHAN;4QAR;4SHIN;4CHIN;4CAN;4JIL;4CIL;4CHAR;",
    "4XAN;4JHAN;4HAE;4HE;4HIE;4WE;4HAR;4HOE;4FI;4YN;4ELIFI;4zcGAN;4AIN;;;4AEN;4HARDn;4LABIALn;",
    "SUNDANESEwvBINDU SURYA;3PANGLONG;3PURNAMA;3CAKRA;3LEU SATANGA;3ukSATANGA;3DA SATANGA;",
    "3BA SATANGA"]⟩,
  ⟨0x1CD0, ["VEDICyvKARSHANA;2SHARA;2PRENKHA;1nNIHSHVASA;2YAJURVEDIC MIDLINE SVARITA;",
    "1yvYAJURVEDIC AGGRAVATED INDEPENDENT SVARITA;3INDEPENDENT SVARITA;",
    "3KATHAKA INDEPENDENT SVARITA;2CANDRAd;2YAJURVEDIC KATHAKA INDEPENDENT SVARITA SCHROEDER;",
    "2fSVARITA;2zaSVARITA;2KATHAKA ANUDATTA;2sjd;2zeskd;2yqskd;",
    "2RIGVEDIC KASHMIRI INDEPENDENT SVARITA;2ATHARVAVEDIC INDEPENDENT SVARITA;1nzpSVARITA;",
    "3UDATTA;2xfzpUDATTA;2zpANUDATTA;2xfzpANUDATTA;2zpUDATTApyk;3ANUDATTApyk;2qjANTARGOMUKHA;",
    "3BAHIRGOMUKHA;3VAMAGOMUKHA;4pyk;2TIRYAK;2HEXIFORMuyqj;2uyqj;2RTHANGuyqj;2qjUBHAYATO MUKHA;",
    "2ARDHAVISARGA;2xiARDHAVISARGA;1yvCANDRAa;1nJIHVAMULIYA;2UPADHMANIYA;2ATIKRAMA;1yvxha;",
    "2fxha;1nfqjANTARGOMUKHA"]⟩]

end StructGen.Text.CharacterName
